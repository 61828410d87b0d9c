import RecordRules.Text.Ascii

/-!
# Links between records

Which field of a follow-up or a related record points back at a record, by the record's type.
Types are told apart without regard to the case of ASCII letters.
-/

namespace RecordRules

/-- The link field of each registered record type, the latest registration first. -/
structure LinkRegistry where
  links : List (String × String)
  deriving DecidableEq, Repr, Inhabited

namespace LinkRegistry

def empty : LinkRegistry := ⟨[]⟩

/-- Registers the link field of a record type; a later registration counts. -/
def register (registry : LinkRegistry) (recordType linkField : String) : LinkRegistry :=
  ⟨(Text.asciiLower recordType, linkField) :: registry.links⟩

def linkField? (registry : LinkRegistry) (recordType : String) : Option String :=
  registry.links.lookup (Text.asciiLower recordType)

def standard : LinkRegistry :=
  [("Lead", "lead_id"), ("Contact", "contact_id"), ("Account", "account_id"),
   ("Opportunity", "opportunity_id"), ("Ticket", "ticket_id"), ("Project", "project_id"),
   ("Invoice", "invoice_id")].foldl
    (fun registry link => registry.register link.1 link.2) empty

end LinkRegistry

end RecordRules
