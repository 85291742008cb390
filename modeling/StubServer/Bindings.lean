/-!
# Bindings of names

A finite map from names to values, kept as a list of pairs in which the pair written last for a
name is the only one. `get?_insert` says what a write does to every later look-up.
-/

namespace StubServer

/-- The pairs of a map, the latest write first. -/
structure Bindings (α : Type) where
  toList : List (String × α) := []

namespace Bindings

variable {α : Type}

def empty : Bindings α := ⟨[]⟩

instance : Inhabited (Bindings α) := ⟨empty⟩

def get? (m : Bindings α) (name : String) : Option α :=
  m.toList.lookup name

def contains (m : Bindings α) (name : String) : Bool :=
  (m.get? name).isSome

/-- Binds the name to the value, in place of what it was bound to. -/
def insert (m : Bindings α) (name : String) (value : α) : Bindings α :=
  ⟨(name, value) :: m.toList.filter fun p => p.1 != name⟩

/-- Writes the pairs one after another, so that of two pairs with one name the later stays. -/
def insertAll (m : Bindings α) (pairs : List (String × α)) : Bindings α :=
  pairs.foldl (fun m p => m.insert p.1 p.2) m

def ofList (pairs : List (String × α)) : Bindings α :=
  empty.insertAll pairs

/-- Keeps the bindings of the names on which `p` holds. -/
def keep (m : Bindings α) (p : String → Bool) : Bindings α :=
  ⟨m.toList.filter fun q => p q.1⟩

@[simp]
theorem get?_empty (name : String) : (empty : Bindings α).get? name = none := rfl

theorem lookup_filter (l : List (String × α)) (p : String → Bool) (name : String) :
    (l.filter fun q => p q.1).lookup name = if p name then l.lookup name else none := by
  induction l with
  | nil => simp
  | cons q l ih =>
    obtain ⟨k, v⟩ := q
    rw [List.filter_cons, List.lookup_cons]
    cases hk : name == k with
    | true =>
      obtain rfl : name = k := by simpa using hk
      cases hp : p name with
      | true => simp
      | false => simpa [hp] using ih
    | false =>
      cases hp : p k with
      | true => simp [List.lookup_cons, hk, ih]
      | false => simpa using ih

theorem get?_insert (m : Bindings α) (name : String) (value : α) (other : String) :
    (m.insert name value).get? other = if other = name then some value else m.get? other := by
  by_cases h : other = name
  · simp [get?, insert, h]
  · have hb : (other == name) = false := by simpa using h
    simp only [get?, insert, List.lookup_cons, hb, h, if_false]
    rw [lookup_filter m.toList (fun n => n != name) other]
    simp [h]

theorem insertAll_append (m : Bindings α) (ps qs : List (String × α)) :
    m.insertAll (ps ++ qs) = (m.insertAll ps).insertAll qs :=
  List.foldl_append

/-- The last of the pairs with the name counts; without one the binding stays. -/
theorem get?_insertAll (m : Bindings α) (pairs : List (String × α)) (name : String) :
    (m.insertAll pairs).get? name = (pairs.reverse.lookup name).or (m.get? name) := by
  induction pairs generalizing m with
  | nil => rfl
  | cons p pairs ih =>
    obtain ⟨k, v⟩ := p
    change ((m.insert k v).insertAll pairs).get? name = _
    rw [ih, List.reverse_cons, List.lookup_append, get?_insert, Option.or_assoc]
    by_cases h : name = k
    · simp [h]
    · have hb : (name == k) = false := by simpa using h
      simp [List.lookup_cons, h, hb]

/-- A map has the value of the last pair with the name. -/
theorem get?_ofList_eq_some_iff_last {pairs : List (String × α)} {name : String} {value : α} :
    (ofList pairs).get? name = some value ↔
      ∃ before after, pairs = before ++ (name, value) :: after ∧ ∀ p ∈ after, p.1 ≠ name := by
  rw [ofList, get?_insertAll, get?_empty, Option.or_none, List.lookup_eq_some_iff]
  constructor
  · rintro ⟨later, earlier, hpairs, hlater⟩
    refine ⟨earlier.reverse, later.reverse, ?_, fun p hp => ?_⟩
    · simpa using congrArg List.reverse hpairs
    · exact (bne_iff_ne.1 (hlater p (List.mem_reverse.1 hp))).symm
  · rintro ⟨before, after, rfl, hafter⟩
    refine ⟨after.reverse, before.reverse, by simp, fun p hp => bne_iff_ne.2 ?_⟩
    exact (hafter p (List.mem_reverse.1 hp)).symm

/-- Pairs with names that are new and differ from each other are all kept. -/
theorem toList_insertAll {m : Bindings α} {pairs : List (String × α)}
    (hnodup : (pairs.map Prod.fst).Nodup) (hnew : ∀ p ∈ pairs, ∀ q ∈ m.toList, q.1 ≠ p.1) :
    (m.insertAll pairs).toList = pairs.reverse ++ m.toList := by
  induction pairs generalizing m with
  | nil => rfl
  | cons p pairs ih =>
    have hinsert : (m.insert p.1 p.2).toList = p :: m.toList := by
      rw [insert, List.filter_eq_self.2]
      intro q hq
      simpa using hnew p List.mem_cons_self q hq
    rw [List.map_cons, List.nodup_cons] at hnodup
    change ((m.insert p.1 p.2).insertAll pairs).toList = _
    rw [ih hnodup.2, hinsert]
    · simp
    · intro p' hp' q hq
      rw [hinsert] at hq
      rcases List.mem_cons.1 hq with rfl | hq
      · exact fun heq => hnodup.1 (heq ▸ List.mem_map_of_mem hp')
      · exact hnew p' (List.mem_cons_of_mem _ hp') q hq

theorem toList_ofList {pairs : List (String × α)} (hnodup : (pairs.map Prod.fst).Nodup) :
    (ofList pairs).toList = pairs.reverse := by
  have h := toList_insertAll (m := empty) hnodup (by simp [empty])
  rwa [show (empty : Bindings α).toList = [] from rfl, List.append_nil] at h

/-- Writing pairs drops what was bound to their names and keeps the rest at the back. -/
theorem toList_insertAll_append (pairs : List (String × α)) :
    ∀ front back : List (String × α), ((⟨front ++ back⟩ : Bindings α).insertAll pairs).toList =
      ((⟨front⟩ : Bindings α).insertAll pairs).toList ++
        back.filter fun q => decide (q.1 ∉ pairs.map Prod.fst) := by
  induction pairs with
  | nil =>
    intro front back
    change front ++ back = front ++ back.filter _
    rw [List.filter_eq_self.2 (by simp)]
  | cons p pairs ih =>
    intro front back
    have h := ih ((p.1, p.2) :: front.filter fun q => q.1 != p.1) (back.filter fun q => q.1 != p.1)
    unfold insertAll insert at h ⊢
    simp only [List.foldl_cons, List.filter_append, List.cons_append] at h ⊢
    rw [h, List.filter_filter]
    congr 2
    funext q
    grind

/-- Writing every name that is bound leaves nothing but what is written. -/
theorem insertAll_eq_ofList {m : Bindings α} {pairs : List (String × α)}
    (h : ∀ p ∈ m.toList, p.1 ∈ pairs.map Prod.fst) : m.insertAll pairs = ofList pairs := by
  have happend := toList_insertAll_append pairs [] m.toList
  rw [List.filter_eq_nil_iff.2 (by simpa using h), List.append_nil] at happend
  exact congrArg Bindings.mk happend

theorem lookup_eq_some_iff_mem {l : List (String × α)} (hnodup : (l.map Prod.fst).Nodup)
    {name : String} {value : α} : l.lookup name = some value ↔ (name, value) ∈ l := by
  induction l with
  | nil => simp
  | cons q l ih =>
    obtain ⟨k, v⟩ := q
    rw [List.map_cons, List.nodup_cons] at hnodup
    by_cases hk : name = k
    · subst hk
      have hnot : (name, value) ∉ l := fun hmem =>
        hnodup.1 (List.mem_map.2 ⟨_, hmem, rfl⟩)
      simp [hnot, eq_comm]
    · have hb : (name == k) = false := by simpa using hk
      simp [List.lookup_cons, hb, hk, ih hnodup.2]

theorem get?_ofList_eq_some_iff {pairs : List (String × α)} (hnodup : (pairs.map Prod.fst).Nodup)
    {name : String} {value : α} :
    (ofList pairs).get? name = some value ↔ (name, value) ∈ pairs := by
  have hreverse : (pairs.reverse.map Prod.fst).Nodup := by
    rw [List.map_reverse]
    exact List.pairwise_reverse.2 (hnodup.imp Ne.symm)
  rw [get?, toList_ofList hnodup, lookup_eq_some_iff_mem hreverse, List.mem_reverse]

/-- No name is bound twice, so the order of the pairs does not matter. -/
def Distinct (m : Bindings α) : Prop :=
  (m.toList.map Prod.fst).Nodup

namespace Distinct

theorem empty : (empty : Bindings α).Distinct := List.nodup_nil

theorem insert {m : Bindings α} (h : m.Distinct) (name : String) (value : α) :
    (m.insert name value).Distinct := by
  refine List.nodup_cons.2 ⟨fun hmem => ?_, h.sublist (List.filter_sublist.map Prod.fst)⟩
  obtain ⟨p, hp, hname⟩ := List.mem_map.1 hmem
  simp [hname] at hp

theorem insertAll : ∀ {pairs : List (String × α)} {m : Bindings α}, m.Distinct →
    (m.insertAll pairs).Distinct
  | [], _, h => h
  | p :: _, _, h => (h.insert p.1 p.2).insertAll

theorem get?_ofList_toList {m : Bindings α} (h : m.Distinct) (name : String) :
    (ofList m.toList).get? name = m.get? name := by
  refine Option.ext fun value => ?_
  rw [get?_ofList_eq_some_iff h, ← lookup_eq_some_iff_mem h, get?]

end Distinct

theorem get?_keep (m : Bindings α) (p : String → Bool) (name : String) :
    (m.keep p).get? name = if p name then m.get? name else none :=
  lookup_filter m.toList p name

end Bindings

end StubServer
