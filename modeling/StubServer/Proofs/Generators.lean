import StubServer.Proofs.DrawBounds
import StubServer.Template.Function

/-!
# The catalogue of made-up data

The catalogue has a generator for each listed path and for no other text (`find?_eq_none_iff`). A
draw goes wrong only where there is nothing to draw from, and this never happens in a generator
(`faultless_of_mem_catalogue`): every range and every list in the catalogue has members, and the
bounds given as arguments are put in order first (`bounds_le`).
-/

namespace StubServer

namespace Fake

open Template

variable {α β : Type}

/-! ## Draws that do not go wrong -/

/-- Whatever words there are, the draw does not go wrong. It may go on for ever. -/
def Making.Faultless (m : Making α) : Prop :=
  ∀ d e d', m d ≠ some (.error e, d')

namespace Making

theorem bind_eq (m : Making α) (f : α → Making β) (d : Draws) :
    (m >>= f) d =
      match m d with
      | none => none
      | some (.error e, d') => some (.error e, d')
      | some (.ok a, d') => f a d' := by
  change (m d).bind (fun p => ExceptT.bindCont f p.1 p.2) = _
  rcases m d with _ | ⟨e | a, d'⟩ <;> rfl

theorem lift_eq (r : Random α) (d : Draws) :
    (liftM r : Making α) d = (r d).map fun p => (.ok p.1, p.2) := by
  change (r d).bind (fun p => some (Except.ok p.1, p.2)) = _
  cases r d <;> rfl

@[simp]
theorem faultless_pure (a : α) : Faultless (pure a) := by
  intro d e d' h
  cases h

@[simp]
theorem faultless_lift (r : Random α) : Faultless (liftM r) := by
  intro d e d'
  rw [lift_eq]
  cases r d <;> simp

/-- What follows a draw has to go well only for what can be drawn. -/
theorem Faultless.bind_of {m : Making α} {f : α → Making β} (hm : Faultless m)
    (hf : ∀ a d d', m d = some (.ok a, d') → Faultless (f a)) : Faultless (m >>= f) := by
  intro d e d'
  rw [bind_eq]
  rcases h : m d with _ | ⟨e' | a, d''⟩
  · exact Option.some_ne_none _ ∘ Eq.symm
  · exact absurd h (hm d e' d'')
  · exact hf a d d'' h d'' e d'

@[simp]
theorem Faultless.bind {m : Making α} {f : α → Making β} (hm : Faultless m)
    (hf : ∀ a, Faultless (f a)) : Faultless (m >>= f) :=
  hm.bind_of fun a _ _ _ => hf a

@[simp]
theorem faultless_map {m : Making α} {f : α → β} : Faultless (f <$> m) ↔ Faultless m := by
  constructor
  · intro hm d e d' h
    refine hm d e d' ?_
    rw [map_eq_pure_bind, bind_eq, h]
  · intro hm
    rw [map_eq_pure_bind]
    exact hm.bind fun a => faultless_pure _

@[simp]
theorem faultless_unlessEmpty {empty : Bool} {draw : Random α} :
    Faultless (unlessEmpty empty draw) ↔ empty = false := by
  cases empty with
  | false => exact iff_of_true (faultless_lift draw) rfl
  | true => exact iff_of_false (fun h => h ⟨fun _ => 0, 0⟩ _ _ rfl) (by decide)

@[simp]
theorem faultless_below32 {range : Nat} : Faultless (below32 range) ↔ range ≠ 0 := by
  simp [below32]

@[simp]
theorem faultless_below64 {range : Nat} : Faultless (below64 range) ↔ range ≠ 0 := by
  simp [below64]

@[simp]
theorem faultless_belowSmall {range : Nat} : Faultless (belowSmall range) ↔ range ≠ 0 := by
  simp [belowSmall]

@[simp]
theorem faultless_between {low high : Int} : Faultless (between low high) ↔ low ≤ high := by
  simp [between]

@[simp]
theorem faultless_floatBelow {low high : Float} :
    Faultless (floatBelow low high) ↔ low < high := by
  simp [floatBelow]

@[simp]
theorem faultless_floatBetween {low high : Float} :
    Faultless (floatBetween low high) ↔ low ≤ high := by
  simp [floatBetween]

/-- What is drawn was drawn from a range that is not empty. -/
theorem eq_some_of_unlessEmpty {empty : Bool} {draw : Random α} {d d' : Draws} {a : α}
    (h : unlessEmpty empty draw d = some (.ok a, d')) :
    empty = false ∧ draw d = some (a, d') := by
  cases empty with
  | true => cases h
  | false =>
    change (liftM draw : Making α) d = _ at h
    rw [lift_eq] at h
    obtain ⟨⟨b, e⟩, hdraw, h⟩ := Option.map_eq_some_iff.1 h
    cases h
    exact ⟨rfl, hdraw⟩

theorem lt_of_below64 {range n : Nat} {d d' : Draws}
    (h : below64 range d = some (.ok n, d')) : n < range := by
  obtain ⟨hrange, hdraw⟩ := eq_some_of_unlessEmpty h
  exact Random.lt_of_below64 (Nat.pos_of_ne_zero (by simpa using hrange)) hdraw

theorem lt_of_below32 {range n : Nat} {d d' : Draws}
    (h : below32 range d = some (.ok n, d')) : n < range := by
  obtain ⟨hrange, hdraw⟩ := eq_some_of_unlessEmpty h
  exact Random.lt_of_below32 (Nat.pos_of_ne_zero (by simpa using hrange)) hdraw

/-- A list that is not empty has a member at each index that is drawn for it. -/
@[simp]
theorem faultless_pick {items : List α} : Faultless (pick items) ↔ items ≠ [] := by
  constructor
  · rintro h rfl
    exact h ⟨fun _ => 0, 0⟩ .emptyRange _ rfl
  · intro hne
    have hbelow : Faultless (below64 items.length) :=
      faultless_below64.2 (mt List.length_eq_zero_iff.1 hne)
    refine hbelow.bind_of fun n d d' h => ?_
    rw [List.getElem?_eq_getElem (lt_of_below64 h)]
    exact faultless_pure _

@[simp]
theorem Faultless.times {m : Making α} (hm : Faultless m) : ∀ count, Faultless (times m count)
  | 0 => faultless_pure []
  | count + 1 => hm.bind fun _ => (Faultless.times hm count).bind fun _ => faultless_pure _

end Making

open Making

/-! ## Parts of texts -/

@[simp]
theorem faultless_concat : ∀ {parts : List (Making String)}, (∀ part ∈ parts, Faultless part) →
    Faultless (concat parts)
  | [], _ => faultless_pure ""
  | part :: parts, h => by
    rw [List.forall_mem_cons] at h
    exact h.1.bind fun _ => (faultless_concat h.2).bind fun _ => faultless_pure _

@[simp]
theorem faultless_joined {separator : String} {count : Nat} {draw : Making String}
    (h : Faultless draw) : Faultless (joined separator count draw) :=
  (h.times count).bind fun _ => faultless_pure _

@[simp]
theorem faultless_fill {mark : Char} {draw : Making Char} (h : Faultless draw) :
    ∀ cs : List Char, Faultless (fill mark draw cs)
  | [] => faultless_pure []
  | c :: cs => by
    rw [fill]
    split
    · exact h.bind fun _ => (faultless_fill h cs).bind fun _ => faultless_pure _
    · simp [faultless_fill h cs]

@[simp]
theorem faultless_digitsFor (pattern : String) : Faultless (digitsFor pattern) := by
  simp [digitsFor, digit]

@[simp]
theorem faultless_lettersFor (pattern : String) : Faultless (lettersFor pattern) := by
  simp [lettersFor, capital]

@[simp]
theorem faultless_letters (count : Nat) : Faultless (letters count) := by
  simp [letters, smallLetter]

@[simp]
theorem faultless_alphanumeric (count : Nat) : Faultless (alphanumeric count) := by
  simp +decide [alphanumeric]

@[simp]
theorem faultless_hex {draw : Making Nat} {width : Nat} (h : Faultless draw) :
    Faultless (hex draw width) :=
  h.bind fun _ => faultless_pure _

@[simp]
theorem faultless_numeral {low count : Nat} (h : count ≠ 0) : Faultless (numeral low count) :=
  (faultless_below32.2 h).bind fun _ => faultless_pure _

@[simp]
theorem faultless_uuid : Faultless uuid :=
  (faultless_lift _).bind fun _ => (faultless_lift _).bind fun _ => (faultless_lift _).bind
    fun _ => (faultless_lift _).bind fun _ => (faultless_lift _).bind fun _ => faultless_pure _

@[simp]
theorem faultless_articleNumber (length : Nat) : Faultless (articleNumber length) := by
  simp [articleNumber]

@[simp]
theorem faultless_streetName : Faultless streetName := by
  simp +decide [streetName]

@[simp]
theorem faultless_buildingNumber : Faultless buildingNumber := by
  simp [buildingNumber]

@[simp]
theorem faultless_streetAddress : Faultless streetAddress := by
  simp [streetAddress]

@[simp]
theorem faultless_city : Faultless city := by
  simp +decide [city]

@[simp]
theorem faultless_address : Faultless address := by
  simp +decide [address]

@[simp]
theorem faultless_userName : Faultless userName := by
  refine (faultless_pick.2 (by decide)).bind fun first => ?_
  refine (faultless_pick.2 (by decide)).bind fun last => ?_
  refine (faultless_below32.2 (by decide)).bind fun form => ?_
  split <;> simp

@[simp]
theorem faultless_email {domains : List String} (h : domains ≠ []) :
    Faultless (email domains) := by
  simp [email, h]

@[simp]
theorem faultless_domainWord : Faultless domainWord := by
  simp +decide [domainWord]

@[simp]
theorem faultless_url : Faultless url := by
  simp +decide [url, domainName]

@[simp]
theorem faultless_port : Faultless port := by
  simp [port]

@[simp]
theorem faultless_ipv4 : Faultless ipv4 := by
  simp [ipv4, hostByte, byte]

@[simp]
theorem faultless_ipv6 : Faultless ipv6 := by
  simp [ipv6]

@[simp]
theorem faultless_rootedPath : Faultless rootedPath := by
  refine (faultless_below32.2 (by decide)).bind fun count => faultless_joined ?_
  simp +decide

@[simp]
theorem faultless_words (count : Nat) : Faultless (words count) := by
  simp +decide [words]

@[simp]
theorem faultless_sentence : Faultless sentence := by
  simp [sentence]

@[simp]
theorem faultless_sentences (separator : String) (count : Nat) :
    Faultless (sentences separator count) := by
  simp [sentences]

@[simp]
theorem faultless_someSentences {separator : String} {least choices : Nat} (h : choices ≠ 0) :
    Faultless (someSentences separator least choices) := by
  simp [someSentences, h]

theorem forall_mem_intersperse {P : α → Prop} {separator : α} (hseparator : P separator) :
    ∀ {items : List α}, (∀ a ∈ items, P a) → ∀ a ∈ items.intersperse separator, P a
  | [], h | [_], h => h
  | a :: b :: items, h => by
    rw [List.forall_mem_cons] at h
    rw [List.intersperse_cons_cons, List.forall_mem_cons, List.forall_mem_cons]
    exact ⟨h.1, hseparator, forall_mem_intersperse hseparator h.2⟩

@[simp]
theorem faultless_phrase {lists : List (List String)} (h : ∀ words ∈ lists, words ≠ []) :
    Faultless (phrase lists) := by
  refine faultless_concat (forall_mem_intersperse (faultless_pure " ") ?_)
  simpa using h

/-! ## Bounds given as arguments -/

theorem ordered_eq (a b : Int) : (if a ≤ b then (a, b) else (b, a)) = (min a b, max a b) := by
  split
  · rw [Int.min_eq_left ‹_›, Int.max_eq_right ‹_›]
  · rw [Int.min_eq_right (by omega), Int.max_eq_left (by omega)]

/-- Whatever the arguments are, the bounds are in order. -/
theorem bounds_le (args : Arguments) (low high : Int) :
    (bounds args low high).1 ≤ (bounds args low high).2 := by
  obtain ⟨a, b, h⟩ : ∃ a b, bounds args low high = (min a b, max a b) := ⟨_, _, ordered_eq _ _⟩
  rw [h]
  exact Int.le_trans (Int.min_le_left a b) (Int.le_max_left a b)

theorem bounds_of_integers {args : Arguments} {a b : Int} (ha : args.integer? 0 = some a)
    (hb : args.integer? 1 = some b) (low high : Int) :
    bounds args low high = (min a b, max a b) := by
  rw [bounds, ha, hb]
  exact ordered_eq a b

/-! ## Generators -/

namespace Generator

/-- What is drawn for the arguments, unless it is a date. -/
def making? (args : Arguments) : Generator → Option (Making Value)
  | plain draw => some draw
  | ranged draw => some (draw args)
  | dated _ => none

/-- The generator makes no dates, and what it draws does not go wrong, whatever the arguments. -/
def Faultless (g : Generator) : Prop :=
  ∀ args, ∃ m, g.making? args = some m ∧ m.Faultless

@[simp]
theorem faultless_plain {draw : Making Value} : (plain draw).Faultless ↔ draw.Faultless := by
  simp [Faultless, making?]

@[simp]
theorem faultless_text {draw : Making String} : (text draw).Faultless ↔ draw.Faultless := by
  simp [text]

@[simp]
theorem faultless_number {draw : Making Float} : (number draw).Faultless ↔ draw.Faultless := by
  simp [number]

@[simp]
theorem faultless_natural {draw : Making Nat} : (natural draw).Faultless ↔ draw.Faultless := by
  simp [natural]

@[simp]
theorem faultless_integer {draw : Making Int} : (integer draw).Faultless ↔ draw.Faultless := by
  simp [integer]

@[simp]
theorem faultless_decimal {places : Nat} {draw : Making Float} :
    (decimal places draw).Faultless ↔ draw.Faultless := by
  simp [decimal]

@[simp]
theorem faultless_integerWithin (low high : Int) : (integerWithin low high).Faultless := by
  intro args
  exact ⟨_, rfl, (faultless_between.2 (bounds_le args low high)).bind fun _ => faultless_pure _⟩

end Generator

theorem faultless_addressGenerators : ∀ p ∈ addressGenerators, p.2.Faultless := by
  simp +decide [addressGenerators]

theorem faultless_commerceGenerators : ∀ p ∈ commerceGenerators, p.2.Faultless := by
  simp +decide [commerceGenerators]

theorem faultless_companyGenerators : ∀ p ∈ companyGenerators, p.2.Faultless := by
  simp +decide [companyGenerators]

theorem faultless_databaseGenerators : ∀ p ∈ databaseGenerators, p.2.Faultless := by
  simp +decide [databaseGenerators]

theorem faultless_financeGenerators : ∀ p ∈ financeGenerators, p.2.Faultless := by
  simp +decide [financeGenerators]

theorem faultless_hackerGenerators : ∀ p ∈ hackerGenerators, p.2.Faultless := by
  simp +decide [hackerGenerators, hackerPhrase]

theorem faultless_internetGenerators : ∀ p ∈ internetGenerators, p.2.Faultless := by
  simp +decide [internetGenerators, domainName]

theorem faultless_loremGenerators : ∀ p ∈ loremGenerators, p.2.Faultless := by
  simp +decide [loremGenerators]

theorem faultless_nameGenerators : ∀ p ∈ nameGenerators, p.2.Faultless := by
  simp +decide [nameGenerators, fullName]

theorem faultless_phoneGenerators : ∀ p ∈ phoneGenerators, p.2.Faultless := by
  simp +decide [phoneGenerators]

theorem faultless_basicsGenerators : ∀ p ∈ basicsGenerators, p.2.Faultless := by
  simp +decide [basicsGenerators]

/-! ## The catalogue -/

theorem isPrefix_of_mem_dateGenerators :
    ∀ path ∈ dateGenerators.map Prod.fst, "date.".toList <+: path.toList := by
  decide +kernel

/-- The generators of all but dates are faultless. -/
theorem faultless_of_mem_catalogue {p : String × Generator} (h : p ∈ catalogue)
    (hdate : ¬ "date.".toList <+: p.1.toList) : p.2.Faultless := by
  simp only [catalogue, List.mem_append, or_assoc] at h
  rcases h with h | h | h | h | h | h | h | h | h | h | h | h
  · exact faultless_addressGenerators p h
  · exact faultless_commerceGenerators p h
  · exact faultless_companyGenerators p h
  · exact faultless_databaseGenerators p h
  · exact absurd (isPrefix_of_mem_dateGenerators _ (List.mem_map_of_mem h)) hdate
  · exact faultless_financeGenerators p h
  · exact faultless_hackerGenerators p h
  · exact faultless_internetGenerators p h
  · exact faultless_loremGenerators p h
  · exact faultless_nameGenerators p h
  · exact faultless_phoneGenerators p h
  · exact faultless_basicsGenerators p h

/-- The generators have the listed paths. -/
theorem map_fst_catalogue : catalogue.map Prod.fst = paths := by
  decide +kernel

theorem find?_eq_none_iff {path : String} : find? path = none ↔ path ∉ paths := by
  rw [find?, ← map_fst_catalogue, List.lookup_eq_none_iff]
  simp only [List.mem_map, not_exists, not_and, bne_iff_ne]
  exact forall₂_congr fun _ _ => ne_comm

theorem mem_catalogue_of_find? {path : String} {g : Generator} (h : find? path = some g) :
    (path, g) ∈ catalogue := by
  obtain ⟨before, after, hcatalogue, -⟩ := List.lookup_eq_some_iff.1 h
  rw [hcatalogue]
  simp

/-- Each listed path but those of dates has a generator, and that one is faultless. -/
theorem exists_faultless_of_mem_paths {path : String} (h : path ∈ paths)
    (hdate : ¬ "date.".toList <+: path.toList) : ∃ g, find? path = some g ∧ g.Faultless := by
  obtain ⟨g, hg⟩ := Option.ne_none_iff_exists'.1 (mt find?_eq_none_iff.1 (not_not_intro h))
  exact ⟨g, hg, faultless_of_mem_catalogue (mem_catalogue_of_find? hg) hdate⟩

theorem shortNames_targets : ∀ p ∈ shortNames, p.2 ∈ paths := by
  decide +kernel

end Fake

namespace Template

open Fake

variable {now : Time.Instant} {path : String} {args : Arguments} {s : RenderState}

/-! ## Making data of a kind -/

theorem random_result {α : Type} (m : Making α) (s : RenderState) :
    Rendering.random m.result s =
      match m s.draws with
      | some (.ok a, draws) => .ok a { s with draws }
      | some (.error _, _) | none => .error .exhaustedDraws s := by
  have hresult : m.result s.draws =
      match m s.draws with
      | some (.ok a, draws) => some (a, draws)
      | some (.error _, _) | none => none := by
    change (m s.draws).bind _ = _
    rcases m s.draws with _ | ⟨e | a, draws⟩ <;> rfl
  rw [Rendering.random, hresult]
  rcases m s.draws with _ | ⟨e | a, draws⟩ <;> rfl

theorem makeUp_of_making? {g : Generator} {m : Making Value} (hg : Fake.find? path = some g)
    (hm : g.making? args = some m) : makeUp now path args = Rendering.random m.result := by
  cases g with
  | plain draw | ranged draw =>
    obtain rfl := Option.some.inj hm
    rw [makeUp, hg]
  | dated draw => cases hm

theorem makeUp_of_not_mem_paths (h : path ∉ Fake.paths) :
    makeUp now path args s = .error (.unknownFakerPath path) s := by
  rw [makeUp, find?_eq_none_iff.2 h]
  rfl

theorem random_ne_unknownFakerPath {α : Type} (r : Random α) {path' : String} {s s' : RenderState} :
    Rendering.random r s ≠ .error (.unknownFakerPath path') s' := by
  unfold Rendering.random
  split <;> simp

theorem makeUp_ne_unknownFakerPath (h : path ∈ Fake.paths) {path' : String} {s' : RenderState} :
    makeUp now path args s ≠ .error (.unknownFakerPath path') s' := by
  obtain ⟨g, hg⟩ := Option.ne_none_iff_exists'.1 (mt find?_eq_none_iff.1 (not_not_intro h))
  rw [makeUp, hg]
  cases g with
  | plain draw | ranged draw => exact random_ne_unknownFakerPath _
  | dated draw =>
    dsimp only
    rw [Rendering.bind_eq]
    rcases hdraw : Rendering.random (draw now args) s with ⟨_ | instant, s''⟩ | ⟨e, s''⟩
    · nofun
    · nofun
    · intro herror
      cases herror
      exact random_ne_unknownFakerPath _ hdraw

/-- The words at hand may not be enough for a draw of the generator. If they are, there is a value,
as the draw does not go wrong. -/
theorem makeUp_of_faultless {g : Generator} (hg : Fake.find? path = some g)
    (hfaultless : g.Faultless) (args : Arguments) :
    ∃ m, g.making? args = some m ∧ ∀ now s,
      match m s.draws with
      | none => makeUp now path args s = .error .exhaustedDraws s
      | some (.ok v, draws) => makeUp now path args s = .ok v { s with draws }
      | some (.error _, _) => False := by
  obtain ⟨m, hm, hnever⟩ := hfaultless args
  refine ⟨m, hm, fun now s => ?_⟩
  rw [makeUp_of_making? hg hm, random_result]
  rcases h : m s.draws with _ | ⟨e | v, draws⟩
  · rfl
  · exact hnever _ _ _ h
  · rfl

/-- A number between two integers is drawn from their interval, in whichever order they are. -/
theorem makeUp_integerWithin {low high a b : Int}
    (hpath : Fake.find? path = some (integerWithin low high)) (ha : args.integer? 0 = some a)
    (hb : args.integer? 1 = some b) :
    match Random.between (min a b) (max a b) s.draws with
    | none => makeUp now path args s = .error .exhaustedDraws s
    | some (n, draws) => min a b ≤ n ∧ n ≤ max a b ∧
        makeUp now path args s = .ok (.number (Float.ofInt n)) { s with draws } := by
  have hle : min a b ≤ max a b := Int.le_trans (Int.min_le_left a b) (Int.le_max_left a b)
  have hmaking : (integerWithin low high).making? args = some do
      let n ← Making.between (min a b) (max a b)
      return .number (Float.ofInt n) := by
    simp only [integerWithin, Generator.making?, bounds_of_integers ha hb]
  have hbetween : Making.between (min a b) (max a b) =
      liftM (Random.between (min a b) (max a b)) := by
    rw [Making.between, Making.unlessEmpty,
      if_neg (mt of_decide_eq_true (Int.not_lt.2 hle))]
  obtain ⟨hamin, hamax⟩ := Number.fitsInt64_iff.1 (Arguments.fitsInt64_of_integer? ha)
  obtain ⟨hbmin, hbmax⟩ := Number.fitsInt64_iff.1 (Arguments.fitsInt64_of_integer? hb)
  rw [makeUp_of_making? hpath hmaking, random_result, Making.bind_eq, hbetween, Making.lift_eq]
  rcases h : Random.between (min a b) (max a b) s.draws with _ | ⟨n, draws⟩
  · rfl
  · obtain ⟨hlow, hhigh⟩ := Random.mem_of_between (by omega) hle (by omega) h
    exact ⟨hlow, hhigh, rfl⟩

/-- The listed paths are those that data can be made for; for any other text that is the error, and
nothing is drawn. The short names stand for listed paths. Whatever the arguments, the generator of a
path other than of a date has a draw that does not go wrong, for want of a range to draw from or of
a member of a list, and its result is the value. Two integers as arguments for `number` or `int` are
the ends of the interval that is drawn from, in either order. -/
theorem catalogue_generates :
    (∀ now path args s, path ∉ Fake.paths →
        makeUp now path args s = .error (.unknownFakerPath path) s) ∧
      (∀ now path args s path' s', path ∈ Fake.paths →
        makeUp now path args s ≠ .error (.unknownFakerPath path') s') ∧
      (∀ p ∈ Fake.shortNames, p.2 ∈ Fake.paths) ∧
      (∀ path ∈ Fake.paths, ¬ "date.".toList <+: path.toList →
        ∃ g, Fake.find? path = some g ∧ ∀ args, ∃ m, g.making? args = some m ∧ ∀ now s,
          match m s.draws with
          | none => makeUp now path args s = .error .exhaustedDraws s
          | some (.ok v, draws) => makeUp now path args s = .ok v { s with draws }
          | some (.error _, _) => False) ∧
      ∀ path ∈ ["number", "int"], ∀ now (args : Arguments) s a b,
        args.integer? 0 = some a → args.integer? 1 = some b →
          match Random.between (min a b) (max a b) s.draws with
          | none => makeUp now path args s = .error .exhaustedDraws s
          | some (n, draws) => min a b ≤ n ∧ n ≤ max a b ∧
              makeUp now path args s = .ok (.number (Float.ofInt n)) { s with draws } := by
  refine ⟨fun _ _ _ _ => makeUp_of_not_mem_paths, fun _ _ _ _ _ _ h => makeUp_ne_unknownFakerPath h,
    shortNames_targets, fun path hpath hdate => ?_, fun path hpath now args s a b ha hb => ?_⟩
  · obtain ⟨g, hg, hfaultless⟩ := exists_faultless_of_mem_paths hpath hdate
    exact ⟨g, hg, makeUp_of_faultless hg hfaultless⟩
  · obtain ⟨low, high, hwithin⟩ : ∃ low high, Fake.find? path = some (integerWithin low high) := by
      simp only [List.mem_cons, List.not_mem_nil, or_false] at hpath
      rcases hpath with rfl | rfl
      · exact ⟨0, 1, rfl⟩
      · exact ⟨Number.minInt32, Number.maxInt32, rfl⟩
    exact makeUp_integerWithin hwithin ha hb

/-- A misspelled path, a path with an argument that it has no use for, and the widest interval
there is with its ends the wrong way round. -/
theorem noun_catalogue_generates :
    let s : RenderState := { draws := ⟨fun _ => 0, 0⟩ }
    let ends : Arguments := [.string "9223372036854775807", .string "-9223372036854775808"]
    "hacker.nouns" ∉ Fake.paths ∧
      makeUp ⟨0, 0, 0⟩ "hacker.nouns" [] s = .error (.unknownFakerPath "hacker.nouns") s ∧
      "hacker.noun" ∈ Fake.paths ∧ ¬ "date.".toList <+: "hacker.noun".toList ∧
      (∀ path' s', makeUp ⟨0, 0, 0⟩ "hacker.noun" [.bool true] s ≠
        .error (.unknownFakerPath path') s') ∧
      (∃ v draws, makeUp ⟨0, 0, 0⟩ "hacker.noun" [.bool true] s = .ok v { s with draws }) ∧
      ends.integer? 0 = some Number.maxInt64 ∧ ends.integer? 1 = some Number.minInt64 ∧
      ∃ n draws, Number.minInt64 ≤ n ∧ n ≤ Number.maxInt64 ∧
        makeUp ⟨0, 0, 0⟩ "int" ends s = .ok (.number (Float.ofInt n)) { s with draws } := by
  intro s ends
  obtain ⟨hunknown, hknown, -, hvalue, hinteger⟩ := catalogue_generates
  have hmisspelled : "hacker.nouns" ∉ Fake.paths := by decide +kernel
  have hmem : "hacker.noun" ∈ Fake.paths := by decide +kernel
  have hdate : ¬ "date.".toList <+: "hacker.noun".toList := by decide +kernel
  have hmax : ends.integer? 0 = some Number.maxInt64 := by decide +kernel
  have hmin : ends.integer? 1 = some Number.minInt64 := by decide +kernel
  refine ⟨hmisspelled, hunknown _ _ _ _ hmisspelled, hmem, hdate,
    fun _ _ => hknown _ _ _ _ _ _ hmem, ?_, hmax, hmin, ?_⟩
  · obtain ⟨g, hg, hmaking⟩ := hvalue "hacker.noun" hmem hdate
    obtain ⟨m, hm, hgenerates⟩ := hmaking [.bool true]
    have h := hgenerates ⟨0, 0, 0⟩ s
    have hsome : (m s.draws).isSome = true := by
      obtain rfl : g = text (Making.pick hackerNouns) := Option.some.inj (hg.symm.trans rfl)
      obtain rfl := Option.some.inj hm
      decide +kernel
    obtain ⟨⟨e | v, draws⟩, hdraw⟩ := Option.isSome_iff_exists.1 hsome
    · rw [hdraw] at h
      exact h.elim
    · rw [hdraw] at h
      exact ⟨v, draws, h⟩
  · have h := hinteger "int" (by decide) ⟨0, 0, 0⟩ ends s _ _ hmax hmin
    obtain ⟨n, draws, hdraw⟩ : ∃ n draws, Random.between (min Number.maxInt64 Number.minInt64)
        (max Number.maxInt64 Number.minInt64) s.draws = some (n, draws) := ⟨_, _, rfl⟩
    rw [hdraw] at h
    exact ⟨n, draws, h.1, h.2.1, h.2.2⟩

end Template

end StubServer
