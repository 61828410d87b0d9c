import RecordRules.Json.Decode
import RecordRules.Text.Blank

/-!
# Notifications

What a user is told, and through which channels.  A set of channels is stored as one number with
a bit for each channel.
-/

namespace RecordRules

/-- A set of delivery channels. -/
structure ChannelMask where
  bits : BitVec 32
  deriving DecidableEq, Repr, Inhabited

namespace ChannelMask

def inApp : ChannelMask := ⟨1⟩

def email : ChannelMask := ⟨2⟩

def sms : ChannelMask := ⟨4⟩

def push : ChannelMask := ⟨8⟩

def union (a b : ChannelMask) : ChannelMask := ⟨a.bits ||| b.bits⟩

/-- Are all channels of the other set in this one? -/
def contains (mask other : ChannelMask) : Bool := mask.bits &&& other.bits == other.bits

/-- The channels with their names, in the order in which they are written. -/
def channels : List (ChannelMask × String) :=
  [(inApp, "InApp"), (email, "Email"), (sms, "Sms"), (push, "Push")]

/-- The spelling by which a channel is recognised. -/
def normalize (name : String) : String :=
  Text.asciiLower (Text.without (fun c => c == '-' || c == '_') (Text.trim name))

/-- The channel of a name; an unknown name gives none. -/
def ofName (name : String) : ChannelMask :=
  match normalize name with
  | "inapp" => inApp
  | "email" => email
  | "sms" => sms
  | "push" => push
  | _ => ⟨0⟩

/-- The channels that a comma-separated list names; in-app when it names none. -/
def read (names : String) : ChannelMask :=
  let mask := (Text.splitAt ',' names).foldl (fun mask name => mask.union (ofName name)) ⟨0⟩
  if mask.bits == 0 then inApp else mask

def text (mask : ChannelMask) : String :=
  Text.join "," ((channels.filter fun entry => mask.contains entry.1).map Prod.snd)

def toJson (mask : ChannelMask) : Json := .int mask.bits.toInt

def ofJson (json : Json) : Except Json.DecodeError ChannelMask :=
  (Json.decodeInt32 json).map fun n => ⟨BitVec.ofInt 32 n⟩

end ChannelMask

/-- A message to a user about a record. -/
structure Notification where
  userId : String
  title : String
  message : String
  channels : ChannelMask
  entityType : Option String
  entityId : Option String
  deriving DecidableEq, Repr, Inhabited

namespace Notification

open Json (required need orElse decodeText decodeOption)

def shape : Json.Shape :=
  ⟨"Notification",
   [required "user_id" decodeText, required "title" decodeText, required "message" decodeText,
    required "channels" ChannelMask.ofJson, required "entity_type" (decodeOption decodeText),
    required "entity_id" (decodeOption decodeText)]⟩

def ofJson (json : Json) : Except Json.DecodeError Notification := do
  let fields ← shape.read json
  return {
    userId := ← need fields "user_id" decodeText
    title := ← need fields "title" decodeText
    message := ← need fields "message" decodeText
    channels := ← need fields "channels" ChannelMask.ofJson
    entityType := ← orElse fields "entity_type" none (decodeOption decodeText)
    entityId := ← orElse fields "entity_id" none (decodeOption decodeText) }

def toJson (notification : Notification) : Json :=
  .object [("channels", notification.channels.toJson),
    ("entity_id", Json.ofText? notification.entityId),
    ("entity_type", Json.ofText? notification.entityType),
    ("message", .string notification.message), ("title", .string notification.title),
    ("user_id", .string notification.userId)]

end Notification

end RecordRules
