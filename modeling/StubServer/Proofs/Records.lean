import Mathlib.Data.List.Basic
import Mathlib.Data.List.Forall2
import StubServer.Json.Read
import StubServer.Proofs.JsonText
import StubServer.Proofs.Outcome

/-!
# Reading back what was written

What a reader makes of the document of a written value. A list is read back if its items are, and a
record if each of its fields is found under its name and read back there; what is read off a
document comes from parts that are less deep.
-/

namespace StubServer

variable {ε α β : Type}

/-- The value is read back from what is written for it, which has at most so many levels. -/
structure Kept (read : Reader ε α) (toJson : α → Json) (levels : Nat) (a : α) : Prop where
  read_eq : read (.ofValue (toJson a)) = .ok a
  within : (toJson a).Within levels

namespace Document

theorem ofItems_eq (items : List Json) : ofItems items = items.map ofValue := by
  induction items with
  | nil => rfl
  | cons j items ih => rw [ofItems, ih, List.map_cons]

theorem ofFields_eq (fields : List (String × Json)) :
    ofFields fields = fields.map fun f => (some f.1, ofValue f.2) := by
  induction fields with
  | nil => rfl
  | cons f fields ih => rw [ofFields, ih, List.map_cons]

theorem isWhole_ofNumber (literal : String) : (ofNumber literal).isWhole = true := by
  unfold ofNumber
  split
  · split <;> rfl
  · rfl

theorem allWhole_iff {ds : List Document} : allWhole ds = true ↔ ∀ d ∈ ds, d.isWhole = true := by
  induction ds with
  | nil => simp [allWhole]
  | cons d ds ih => simp [allWhole, ih]

theorem allFieldsWhole_iff {fields : List (Option String × Document)} :
    allFieldsWhole fields = true ↔ ∀ f ∈ fields, f.2.isWhole = true := by
  induction fields with
  | nil => simp [allFieldsWhole]
  | cons f fields ih => simp [allFieldsWhole, ih]

/-- The document of a value can be passed over. -/
theorem isWhole_ofValue {levels : Nat} {j : Json} (h : j.Within levels) :
    (ofValue j).isWhole = true := by
  induction h with
  | null => rfl
  | bool => rfl
  | number => exact isWhole_ofNumber _
  | string => rfl
  | array _ ih =>
    rw [ofValue, isWhole, Bool.and_true, allWhole_iff, ofItems_eq, List.forall_mem_map]
    exact ih
  | object _ ih =>
    rw [ofValue, isWhole, Bool.and_true, allFieldsWhole_iff, ofFields_eq, List.forall_mem_map]
    exact ih

end Document

/-! ## Lists -/

namespace Reader

variable {read : Reader ε α}

theorem eachItem_eq_ok_iff {ds : List Document} {as : List α} :
    eachItem read ds = .ok as ↔ List.Forall₂ (fun d a => read d = .ok a) ds as := by
  induction ds generalizing as with
  | nil => simp [eachItem, eq_comm]
  | cons d ds ih =>
    simp only [eachItem, bind_eq_ok, pure_eq_ok, ih, List.forall₂_cons_left_iff]
    constructor
    · rintro ⟨a, ha, rest, hrest, rfl⟩
      exact ⟨a, rest, ha, hrest, rfl⟩
    · rintro ⟨a, rest, ha, hrest, rfl⟩
      exact ⟨a, ha, rest, hrest, rfl⟩

theorem exists_of_eachItem {ds : List Document} {as : List α} (h : eachItem read ds = .ok as) :
    ∀ a ∈ as, ∃ d ∈ ds, read d = .ok a := by
  rw [eachItem_eq_ok_iff] at h
  induction h with
  | nil => simp
  | cons hd _ ih =>
    refine List.forall_mem_cons.2 ⟨⟨_, List.mem_cons_self, hd⟩, fun a ha => ?_⟩
    obtain ⟨d, hmem, hread⟩ := ih a ha
    exact ⟨d, List.mem_cons_of_mem _ hmem, hread⟩

/-- The items of a list that was read come from documents with one level less. -/
theorem of_list_eq_ok {levels : Nat} {d : Document} {as : List α}
    (h : Reader.list read d = .ok as) (hd : d.Within levels) :
    ∃ below, levels = below + 1 ∧ ∀ a ∈ as, ∃ d : Document, d.Within below ∧ read d = .ok a := by
  cases hd with
  | @list below items complete hitems =>
    obtain ⟨as', has, heq⟩ := bind_eq_ok.1 h
    obtain rfl : as' = as := by
      split at heq
      · exact Except.ok.inj heq
      · cases heq
    refine ⟨below, rfl, fun a ha => ?_⟩
    obtain ⟨d, hd, hread⟩ := exists_of_eachItem has a ha
    exact ⟨d, hitems d hd, hread⟩
  | _ => cases h

end Reader

theorem kept_list {read : Reader ε α} {toJson : α → Json} {levels : Nat} {as : List α}
    (h : ∀ a ∈ as, Kept read toJson levels a) :
    Kept (Reader.list read) (fun as => .array (as.map toJson)) (levels + 1) as := by
  refine ⟨?_, .array ?_⟩
  · rw [Document.ofValue, Document.ofItems_eq, List.map_map]
    refine bind_eq_ok.2 ⟨as, Reader.eachItem_eq_ok_iff.2 ?_, rfl⟩
    rw [List.forall₂_map_left_iff]
    exact List.forall₂_same.2 fun a ha => (h a ha).read_eq
  · intro j hj
    obtain ⟨a, ha, rfl⟩ := List.mem_map.1 hj
    exact (h a ha).within

/-! ## Records -/

/-- The documents of the members. -/
def Members.documents : Members → List Document
  | named fields => fields.map Prod.snd
  | ordered items => items

namespace Fields

variable {f : Fields ε (α → β)} {a : Fields ε α} {members : Members}

theorem both_eq_ok {f : Except (Nat × ReadError ε) (α → β)} {a : Except (Nat × ReadError ε) α}
    {b : β} : both f a = .ok b ↔ ∃ g x, f = .ok g ∧ a = .ok x ∧ g x = b := by
  cases f <;> cases a <;> simp [both]

/-- The fields are read as the value from a record's members. -/
def Reads (a : Fields ε α) (members : Members) (x : α) : Prop :=
  a.run members = .ok x

theorem reads_map_iff {g : α → β} {b : β} :
    (g <$> a).Reads members b ↔ ∃ x, a.Reads members x ∧ g x = b :=
  map_eq_ok

theorem reads_seq_iff {b : β} :
    (f <*> a).Reads members b ↔ ∃ g x, f.Reads members g ∧ a.Reads members x ∧ g x = b :=
  both_eq_ok

theorem Reads.map {g : α → β} {x : α} (h : a.Reads members x) : (g <$> a).Reads members (g x) :=
  reads_map_iff.2 ⟨x, h, rfl⟩

theorem Reads.seq {g : α → β} {x : α} (hf : f.Reads members g) (ha : a.Reads members x) :
    (f <*> a).Reads members (g x) :=
  reads_seq_iff.2 ⟨g, x, hf, ha, rfl⟩

/-- A record that was read has members with one level less, and these were read as its fields. -/
theorem of_read_eq_ok {levels : Nat} {d : Document} {b : α} (h : a.read d = .ok b)
    (hd : d.Within levels) :
    ∃ below members, levels = below + 1 ∧ a.Reads members b ∧
      ∀ d ∈ members.documents, d.Within below := by
  cases hd with
  | @list below items complete hitems =>
    refine ⟨below, .ordered items, rfl, ?_, hitems⟩
    simp only [read] at h
    split at h <;> cases h
    assumption
  | @record below fields complete hfields =>
    refine ⟨below, .named fields, rfl, ?_, List.forall_mem_map.2 hfields⟩
    simp only [read] at h
    split at h <;> cases h
    assumption
  | _ => cases h

theorem mem_of_mem_occurrences {names : List String} {fields : List (Option String × Document)}
    {place : Nat} {d : Document} (h : (place, d) ∈ occurrences names fields) :
    d ∈ fields.map Prod.snd := by
  obtain ⟨⟨⟨found, d'⟩, place'⟩, hmem, heq⟩ := List.mem_filterMap.1 h
  simp only [Option.ite_none_right_eq_some, Option.some.injEq, Prod.mk.injEq] at heq
  obtain ⟨-, -, rfl⟩ := heq
  exact List.mem_map.2 ⟨_, List.fst_mem_of_mem_zipIdx hmem, rfl⟩

/-- The value of a field is its fallback or was read from a member. -/
theorem Reads.of_field {place : Nat} {name : String} {others : List String} {fallback : Option α}
    {read : Reader ε α} {b : α} (h : (field place name others fallback read).Reads members b) :
    fallback = some b ∨ ∃ d ∈ members.documents, read d = .ok b := by
  cases members with
  | ordered items =>
    simp only [Reads, field] at h
    split at h
    · rename_i d hd
      exact Or.inr ⟨d, List.mem_of_getElem? hd, mapError_eq_ok.1 h⟩
    · split at h <;> cases h
      exact Or.inl rfl
  | named fields =>
    simp only [Reads, field] at h
    split at h
    · split at h <;> cases h
      exact Or.inl rfl
    · rename_i hfound
      split at h <;> cases h
      exact Or.inr ⟨_, mem_of_mem_occurrences (hfound ▸ List.mem_cons_self), by assumption⟩

/-- The values of the fields with one of the names. -/
def named (names : List String) (fields : List (String × Json)) : List Json :=
  (fields.filter fun f => names.contains f.1).map Prod.snd

@[simp]
theorem named_nil (names : List String) : named names [] = [] := rfl

@[simp]
theorem named_cons (names : List String) (f : String × Json) (fields : List (String × Json)) :
    named names (f :: fields) =
      if f.1 ∈ names then f.2 :: named names fields else named names fields := by
  by_cases hf : f.1 ∈ names <;> simp [named, hf]

@[simp]
theorem named_append (names : List String) (fields more : List (String × Json)) :
    named names (fields ++ more) = named names fields ++ named names more := by
  simp [named]

theorem map_snd_occurrences (names : List String) (fields : List (String × Json)) :
    (occurrences names (Document.ofFields fields)).map Prod.snd =
      (named names fields).map Document.ofValue := by
  rw [occurrences, Document.ofFields_eq]
  generalize 0 = place
  induction fields generalizing place with
  | nil => rfl
  | cons f fields ih =>
    specialize ih (place + 1)
    rw [List.map_cons, List.zipIdx_cons]
    by_cases hf : f.1 ∈ names
    · simpa [hf] using ih
    · simpa [hf] using ih

section Written

variable {place : Nat} {name : String} {others : List String} {read : Reader ε α} {b : α}
  {fields : List (String × Json)}

theorem reads_field_of_named {fallback : Option α} {j : Json}
    (hnamed : named (name :: others) fields = [j]) (hread : read (.ofValue j) = .ok b) :
    (field place name others fallback read).Reads (.named (Document.ofFields fields)) b := by
  have h := map_snd_occurrences (name :: others) fields
  rw [hnamed, List.map_singleton] at h
  obtain ⟨q, hq, hd⟩ := List.map_eq_singleton_iff.1 h
  simp only [Reads, field, hq]
  rw [hd, hread]

theorem reads_field_of_absent (hnamed : named (name :: others) fields = []) :
    (field place name others (some b) read).Reads (.named (Document.ofFields fields)) b := by
  have h := map_snd_occurrences (name :: others) fields
  rw [hnamed, List.map_nil, List.map_eq_nil_iff] at h
  simp only [Reads, field, h]

end Written

/-- Nothing in a record that was written stops a reader. -/
theorem firstBreak?_ofFields {levels : Nat} {fields : List (String × Json)}
    (known : List (List String)) (hwithin : ∀ f ∈ fields, f.2.Within levels) :
    firstBreak? known true (Document.ofFields fields) = none := by
  have hnone (p : Option String × Document → Bool)
      (hp : ∀ f ∈ fields, p (some f.1, Document.ofValue f.2) = false) :
      (Document.ofFields fields).findIdx? p = none := by
    rw [Document.ofFields_eq, List.findIdx?_eq_none_iff, List.forall_mem_map]
    exact hp
  simp only [firstBreak?]
  rw [hnone]
  intro f hf
  simp [Document.isWhole_ofValue (hwithin f hf)]

end Fields

theorem Fields.read_ofValue {a : Fields ε α} {fields : List (String × Json)} {levels : Nat} {b : α}
    (hreads : a.Reads (.named (Document.ofFields fields)) b)
    (hwithin : ∀ f ∈ fields, f.2.Within levels) :
    a.read (Document.ofValue (.object fields)) = .ok b := by
  rw [Fields.Reads] at hreads
  rw [Document.ofValue]
  simp only [Fields.read, Fields.firstBreak?_ofFields a.known hwithin, hreads]

theorem kept_record {a : Fields ε α} {toJson : α → Json} {fields : List (String × Json)}
    {levels : Nat} {b : α} (hjson : toJson b = .object fields)
    (hreads : a.Reads (.named (Document.ofFields fields)) b)
    (hwithin : ∀ f ∈ fields, f.2.Within levels) : Kept a.read toJson (levels + 1) b :=
  ⟨hjson ▸ Fields.read_ofValue hreads hwithin, hjson ▸ .object hwithin⟩

/-- A value that is kept is read back as a field. -/
theorem Kept.field {read : Reader ε α} {toJson : α → Json} {levels : Nat} {b : α}
    (h : Kept read toJson levels b) {place : Nat} {name : String} {others : List String}
    {fallback : Option α} {fields : List (String × Json)}
    (hnamed : Fields.named (name :: others) fields = [toJson b]) :
    (Fields.field place name others fallback read).Reads (.named (Document.ofFields fields)) b :=
  Fields.reads_field_of_named hnamed h.read_eq

end StubServer
