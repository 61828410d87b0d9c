import RecordRules.Message.Notification
import RecordRules.Proofs.ListLiterals

/-!
# Lists of channels

A list of channels is read as the set of the channels that its items spell,
however often and in which order, and as in-app alone when no item spells one.
What is read names channels only, and reads back from the text it is written as.
-/

namespace RecordRules

namespace ChannelMask

variable {mask other : ChannelMask} {entry : ChannelMask × String}
  {item name names others : String}

/-! ## Channels and bits -/

/-- All channels together. -/
def everything : ChannelMask :=
  channels.foldl (fun mask entry => mask.union entry.1) ⟨0⟩

/-- Every channel is a bit of its own. -/
theorem exists_twoPow (h : entry ∈ channels) :
    ∃ i < 4, entry.1 = ⟨BitVec.twoPow 32 i⟩ := by
  revert entry
  decide

theorem exists_channel {i : Nat} (h : i < 4) :
    ∃ entry ∈ channels, entry.1 = ⟨BitVec.twoPow 32 i⟩ := by
  revert i
  decide

theorem contains_twoPow (mask : ChannelMask) {i : Nat} (h : i < 32) :
    mask.contains ⟨BitVec.twoPow 32 i⟩ = mask.bits.getLsbD i := by
  have hsome : (0#32 == BitVec.twoPow 32 i) = false := by
    rw [beq_eq_false_iff_ne]
    intro hzero
    have hbit := congrArg (fun bits => bits.getLsbD i) hzero
    simp [h] at hbit
  rw [contains, BitVec.and_twoPow]
  cases mask.bits.getLsbD i with
  | true => simp
  | false => simpa using hsome

theorem contains_empty (h : entry ∈ channels) :
    contains ⟨0⟩ entry.1 = false := by
  revert entry
  decide

theorem contains_union (h : entry ∈ channels) (mask other : ChannelMask) :
    (mask.union other).contains entry.1 =
      (mask.contains entry.1 || other.contains entry.1) := by
  obtain ⟨i, hi, hentry⟩ := exists_twoPow h
  have hwidth : i < 32 := by omega
  rw [hentry]
  simp only [contains_twoPow _ hwidth, union, BitVec.getLsbD_or]

/-- There are no bits but those of the channels. -/
theorem everything_contains_iff :
    everything.contains mask = true ↔
      ∀ i, 4 ≤ i → mask.bits.getLsbD i = false := by
  have hbits : everything.bits = BitVec.ofNat 32 (2 ^ 4 - 1) := by decide
  have hlow : ∀ i < 32, everything.bits.getLsbD i = decide (i < 4) := by
    intro i hwidth
    rw [hbits, BitVec.getLsbD_ofNat, Nat.testBit_two_pow_sub_one,
      decide_eq_true hwidth, Bool.true_and]
  rw [contains, beq_iff_eq, BitVec.eq_of_getLsbD_eq_iff]
  constructor
  · intro h i hi
    by_cases hwidth : i < 32
    · have hbit := h i hwidth
      rw [BitVec.getLsbD_and, hlow i hwidth,
        decide_eq_false (Nat.not_lt.mpr hi), Bool.false_and] at hbit
      exact hbit.symm
    · exact BitVec.getLsbD_of_ge _ _ (Nat.not_lt.mp hwidth)
  · intro h i hwidth
    rw [BitVec.getLsbD_and, hlow i hwidth]
    by_cases hi : i < 4
    · rw [decide_eq_true hi, Bool.true_and]
    · rw [h i (Nat.not_lt.mp hi), Bool.and_false]

/-- A set of channels is known by which channels it has. -/
theorem eq_of_contains
    (hmask : everything.contains mask = true)
    (hother : everything.contains other = true)
    (h : ∀ entry ∈ channels,
      mask.contains entry.1 = true ↔ other.contains entry.1 = true) :
    mask = other := by
  rw [everything_contains_iff] at hmask hother
  have hbits : mask.bits = other.bits := by
    refine BitVec.eq_of_getLsbD_eq fun i hwidth => ?_
    by_cases hi : i < 4
    · obtain ⟨entry, hentry, hbit⟩ := exists_channel hi
      have hsame := h entry hentry
      rwa [hbit, contains_twoPow mask hwidth, contains_twoPow other hwidth,
        ← Bool.eq_iff_iff] at hsame
    · rw [hmask i (by omega), hother i (by omega)]
  cases mask
  cases other
  exact congrArg ChannelMask.mk hbits

theorem everything_contains_union
    (hmask : everything.contains mask = true)
    (hother : everything.contains other = true) :
    everything.contains (mask.union other) = true := by
  rw [everything_contains_iff] at hmask hother ⊢
  intro i hi
  rw [union, BitVec.getLsbD_or, hmask i hi, hother i hi, Bool.or_false]

/-! ## Items -/

/-- Does the item spell the name, up to hyphens, underscores, case, and blanks at
its ends? -/
def Spells (item name : String) : Prop := normalize item = Text.asciiLower name

instance : Decidable (Spells item name) :=
  inferInstanceAs (Decidable (normalize item = Text.asciiLower name))

def IsChannel (item : String) : Prop :=
  ∃ entry ∈ channels, Spells item entry.2

instance : Decidable (IsChannel item) :=
  inferInstanceAs (Decidable (∃ entry ∈ channels, Spells item entry.2))

/-- Does one of the items spell a channel? -/
def NamesSome (names : String) : Prop :=
  ∃ item ∈ Text.splitAt ',' names, IsChannel item

instance : Decidable (NamesSome names) :=
  inferInstanceAs (Decidable (∃ item ∈ Text.splitAt ',' names, IsChannel item))

theorem forall_channels {P : ChannelMask × String → Prop} :
    (∀ entry ∈ channels, P entry) ↔
      P (inApp, "InApp") ∧ P (email, "Email") ∧ P (sms, "Sms") ∧
        P (push, "Push") := by
  simp [channels]

theorem contains_ofName (h : entry ∈ channels) (item : String) :
    (ofName item).contains entry.1 = true ↔ Spells item entry.2 := by
  have hinApp : Text.asciiLower "InApp" = "inapp" := by decide
  have hemail : Text.asciiLower "Email" = "email" := by decide
  have hsms : Text.asciiLower "Sms" = "sms" := by decide
  have hpush : Text.asciiLower "Push" = "push" := by decide
  revert entry
  rw [forall_channels]
  simp only [Spells, hinApp, hemail, hsms, hpush]
  unfold ofName
  split
  case h_5 hnotInApp hnotEmail hnotSms hnotPush =>
    simp only [iff_false_intro hnotInApp, iff_false_intro hnotEmail,
      iff_false_intro hnotSms, iff_false_intro hnotPush]
    decide
  all_goals
    rename_i hname
    rw [hname]
    decide

theorem everything_contains_ofName (item : String) :
    everything.contains (ofName item) = true := by
  unfold ofName
  split <;> decide

/-! ## Lists -/

/-- The channels that one of the items spells. -/
def gathered (items : List String) : ChannelMask :=
  items.foldl (fun mask item => mask.union (ofName item)) ⟨0⟩

theorem contains_foldl (h : entry ∈ channels) (items : List String)
    (mask : ChannelMask) :
    (items.foldl (fun mask item => mask.union (ofName item)) mask).contains
        entry.1 = true ↔
      mask.contains entry.1 = true ∨ ∃ item ∈ items, Spells item entry.2 := by
  -- whatever was gathered before, each item adds what it spells
  induction items generalizing mask with
  | nil => simp
  | cons item rest ih =>
      rw [List.foldl_cons, ih, contains_union h, Bool.or_eq_true,
        contains_ofName h, List.exists_mem_cons_iff, or_assoc]

theorem contains_gathered (h : entry ∈ channels) (items : List String) :
    (gathered items).contains entry.1 = true ↔
      ∃ item ∈ items, Spells item entry.2 := by
  rw [gathered, contains_foldl h, contains_empty h]
  simp

theorem everything_contains_gathered (items : List String) :
    everything.contains (gathered items) = true := by
  have hall : ∀ mask : ChannelMask, everything.contains mask = true →
      everything.contains
        (items.foldl (fun mask item => mask.union (ofName item)) mask) =
          true := by
    induction items with
    | nil => exact fun _ hmask => hmask
    | cons item rest ih =>
        exact fun mask hmask =>
          ih _ (everything_contains_union hmask (everything_contains_ofName item))
  exact hall ⟨0⟩ (by decide)

theorem gathered_eq_empty_iff (items : List String) :
    gathered items = ⟨0⟩ ↔ ¬ ∃ item ∈ items, IsChannel item := by
  constructor
  · rintro hempty ⟨item, hitem, entry, hentry, hspells⟩
    have hcontains :=
      (contains_gathered hentry items).mpr ⟨item, hitem, hspells⟩
    rw [hempty, contains_empty hentry] at hcontains
    cases hcontains
  · intro hnoItem
    refine eq_of_contains (everything_contains_gathered items) (by decide)
      fun entry hentry => ?_
    rw [contains_gathered hentry, contains_empty hentry]
    simp only [Bool.false_eq_true, iff_false]
    rintro ⟨item, hitem, hspells⟩
    exact hnoItem ⟨item, hitem, entry, hentry, hspells⟩

theorem read_eq (names : String) :
    read names =
      if (gathered (Text.splitAt ',' names)).bits = 0 then inApp
      else gathered (Text.splitAt ',' names) := by
  simp only [← beq_iff_eq (a := (gathered (Text.splitAt ',' names)).bits)]
  rfl

theorem read_of_namesSome (h : NamesSome names) :
    read names = gathered (Text.splitAt ',' names) := by
  rw [read_eq, if_neg]
  intro hempty
  exact (gathered_eq_empty_iff _).mp (congrArg mk hempty) h

theorem read_of_not_namesSome (h : ¬ NamesSome names) :
    read names = inApp := by
  have hempty := (gathered_eq_empty_iff _).mpr h
  rw [read_eq, if_pos (congrArg bits hempty)]

theorem contains_read (h : NamesSome names) (hentry : entry ∈ channels) :
    (read names).contains entry.1 = true ↔
      ∃ item ∈ Text.splitAt ',' names, Spells item entry.2 := by
  rw [read_of_namesSome h, contains_gathered hentry]

theorem everything_contains_read (names : String) :
    everything.contains (read names) = true := by
  by_cases h : NamesSome names
  · rw [read_of_namesSome h]
    exact everything_contains_gathered _
  · rw [read_of_not_namesSome h]
    decide

theorem read_ne_empty (names : String) : (read names).bits ≠ 0 := by
  rw [read_eq]
  split
  · decide
  · assumption

/-- Only the items that spell a channel count, and only that they are there. -/
theorem read_congr
    (h : ∀ item, IsChannel item →
      (item ∈ Text.splitAt ',' names ↔ item ∈ Text.splitAt ',' others)) :
    read names = read others := by
  have hspelt : ∀ entry ∈ channels,
      (∃ item ∈ Text.splitAt ',' names, Spells item entry.2) ↔
        ∃ item ∈ Text.splitAt ',' others, Spells item entry.2 := by
    intro entry hentry
    refine exists_congr fun item => and_congr_left fun hspells => ?_
    exact h item ⟨entry, hentry, hspells⟩
  have hsame :
      gathered (Text.splitAt ',' names) = gathered (Text.splitAt ',' others) :=
    eq_of_contains (everything_contains_gathered _)
      (everything_contains_gathered _) fun entry hentry => by
        rw [contains_gathered hentry, contains_gathered hentry,
          hspelt entry hentry]
  rw [read_eq, read_eq, hsame]

theorem splitAt_comma (names others : String) :
    Text.splitAt ',' (names ++ "," ++ others) =
      Text.splitAt ',' names ++ Text.splitAt ',' others :=
  Text.splitAt_append ',' names others

theorem read_append (hnames : NamesSome names) (hothers : NamesSome others) :
    read (names ++ "," ++ others) = (read names).union (read others) := by
  have hboth : NamesSome (names ++ "," ++ others) := by
    obtain ⟨item, hitem, hchannel⟩ := hnames
    refine ⟨item, ?_, hchannel⟩
    rw [splitAt_comma]
    exact List.mem_append_left _ hitem
  refine eq_of_contains (everything_contains_read _)
    (everything_contains_union (everything_contains_read _)
      (everything_contains_read _)) fun entry hentry => ?_
  rw [contains_union hentry, Bool.or_eq_true, contains_read hboth hentry,
    contains_read hnames hentry, contains_read hothers hentry, splitAt_comma]
  simp only [List.mem_append, or_and_right, exists_or]

/-! ## Texts -/

theorem spells_name_iff :
    ∀ written ∈ channels, ∀ entry ∈ channels,
      Spells written.2 entry.2 ↔ written = entry := by
  unfold Spells
  decide

theorem splitAt_text
    (hsome : (channels.filter fun entry => mask.contains entry.1) ≠ []) :
    Text.splitAt ',' mask.text =
      (channels.filter fun entry => mask.contains entry.1).map Prod.snd := by
  have hplain : ∀ entry ∈ channels, ',' ∉ entry.2.toList := by decide
  refine Text.splitAt_join_of_notMem (by simpa using hsome) fun name hname => ?_
  obtain ⟨entry, hentry, rfl⟩ := List.mem_map.mp hname
  exact hplain entry (List.mem_of_mem_filter hentry)

theorem read_text (hsome : mask.bits ≠ 0)
    (hmask : everything.contains mask = true) :
    read mask.text = mask := by
  have hfilter :
      (channels.filter fun entry => mask.contains entry.1) ≠ [] := by
    intro hnone
    rw [List.filter_eq_nil_iff] at hnone
    have hempty : mask = ⟨0⟩ :=
      eq_of_contains hmask (by decide) fun entry hentry => by
        rw [contains_empty hentry, iff_false_right Bool.false_ne_true]
        exact hnone entry hentry
    exact hsome (congrArg bits hempty)
  have hspelt : ∀ entry ∈ channels,
      (∃ item ∈ Text.splitAt ',' mask.text, Spells item entry.2) ↔
        mask.contains entry.1 = true := by
    intro entry hentry
    rw [splitAt_text hfilter]
    constructor
    · rintro ⟨item, hitem, hspells⟩
      obtain ⟨written, hwritten, rfl⟩ := List.mem_map.mp hitem
      obtain ⟨hchannel, hcontains⟩ := List.mem_filter.mp hwritten
      -- no name that is written spells another channel
      obtain rfl := (spells_name_iff written hchannel entry hentry).mp hspells
      exact hcontains
    · intro hcontains
      refine ⟨entry.2, List.mem_map_of_mem ?_,
        (spells_name_iff entry hentry entry hentry).mpr rfl⟩
      exact List.mem_filter.mpr ⟨hentry, hcontains⟩
  have hnames : NamesSome mask.text := by
    obtain ⟨entry, hentry⟩ := List.exists_mem_of_ne_nil _ hfilter
    obtain ⟨hchannel, hcontains⟩ := List.mem_filter.mp hentry
    obtain ⟨item, hitem, hspells⟩ := (hspelt entry hchannel).mpr hcontains
    exact ⟨item, hitem, entry, hchannel, hspells⟩
  refine eq_of_contains (everything_contains_read _) hmask
    fun entry hentry => ?_
  rw [contains_read hnames hentry, hspelt entry hentry]

end ChannelMask

end RecordRules
