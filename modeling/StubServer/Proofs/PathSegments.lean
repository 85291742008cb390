import Mathlib.Data.List.Basic
import StubServer.Url.Match

/-!
# The segments of a path

A path is a text of segments with slashes between them, which may have one slash in front, one at
its end and a query behind it. It can be taken apart in one way only, and that is the way in which
paths are matched (`hasSegments_iff`).
-/

namespace StubServer

namespace Url

/-- The segments of a text with slashes between them; an empty text has none. -/
def slashSegments (cs : List Char) : List (List Char) :=
  if cs.isEmpty then [] else Text.splitAtChar '/' cs

/-- The path has the segments. A slash at its front or its end belongs to none of them, and neither
does what follows the first question mark. -/
structure HasSegments (path : String) (segments : List (List Char)) : Prop where
  slash : ∀ part ∈ segments, '/' ∉ part
  ne_singleton : segments ≠ [[]]
  parts : ∃ lead trail query : List Char,
    path.toList = lead ++ ['/'].intercalate segments ++ trail ++ query ∧
      '?' ∉ lead ++ ['/'].intercalate segments ++ trail ∧ (∀ c ∈ query.head?, c = '?') ∧
      (lead = ['/'] ∨ lead = [] ∧ (['/'].intercalate segments ++ trail).head? ≠ some '/') ∧
      (trail = ['/'] ∨ trail = [] ∧ (['/'].intercalate segments).getLast? ≠ some '/')

theorem slashSegments_eq_iff {cs : List Char} {segments : List (List Char)} :
    slashSegments cs = segments ↔
      ['/'].intercalate segments = cs ∧ (∀ part ∈ segments, '/' ∉ part) ∧ segments ≠ [[]] := by
  unfold slashSegments
  constructor
  · rintro rfl
    split
    · rename_i hempty
      simpa using hempty
    · rename_i hne
      refine ⟨?_, fun part => Text.notMem_of_mem_splitAtChar, fun hsingle => hne ?_⟩
      · rw [Text.splitAtChar_eq_splitOn, List.intercalate_splitOn]
      · have h : ['/'].intercalate (cs.splitOn '/') = cs := List.intercalate_splitOn '/'
        rw [← Text.splitAtChar_eq_splitOn, hsingle, List.intercalate_singleton] at h
        rw [← h, List.isEmpty_nil]
  · rintro ⟨rfl, hslash, hsingle⟩
    rcases segments with _ | ⟨part, segments⟩
    · rfl
    · have hne : ['/'].intercalate (part :: segments) ≠ [] := by
        rcases segments with _ | ⟨part', segments⟩
        · simpa using hsingle
        · simp [List.intercalate_cons_cons]
      rw [if_neg (by simpa using hne), Text.splitAtChar_eq_splitOn,
        List.splitOn_intercalate '/' hslash (List.cons_ne_nil _ _)]

/-! ## What is cut off a path -/

theorem takeWhile_ne_eq_iff {c : Char} {cs before : List Char} :
    cs.takeWhile (· != c) = before ↔
      ∃ rest, cs = before ++ rest ∧ c ∉ before ∧ ∀ d ∈ rest.head?, d = c := by
  have hnot : (∀ d ∈ before, (d != c) = true) ↔ c ∉ before := by
    simp only [bne_iff_ne]
    exact ⟨fun h hmem => h c hmem rfl, fun h d hd heq => h (heq ▸ hd)⟩
  constructor
  · rintro rfl
    obtain ⟨heq, hbefore, hrest⟩ := Text.takeWhile_dropWhile_iff.1 ⟨rfl, rfl⟩
    exact ⟨_, heq, hnot.1 hbefore, by simpa using hrest⟩
  · rintro ⟨rest, heq, hbefore, hrest⟩
    exact (Text.takeWhile_dropWhile_iff.2 ⟨heq, hnot.2 hbefore, by simpa using hrest⟩).1

def withoutLead (cs : List Char) : List Char :=
  match cs with
  | '/' :: rest => rest
  | _ => cs

theorem withoutLead_eq_iff {cs rest : List Char} :
    withoutLead cs = rest ↔
      ∃ lead, cs = lead ++ rest ∧ (lead = ['/'] ∨ lead = [] ∧ rest.head? ≠ some '/') := by
  constructor
  · rintro rfl
    unfold withoutLead
    split
    · exact ⟨['/'], rfl, Or.inl rfl⟩
    · rename_i hlead
      refine ⟨[], rfl, Or.inr ⟨rfl, fun hhead => ?_⟩⟩
      obtain ⟨tail, htail⟩ := List.head?_eq_some_iff.1 hhead
      exact hlead tail htail
  · rintro ⟨_, rfl, rfl | ⟨rfl, hhead⟩⟩
    · rfl
    · unfold withoutLead
      split
      · rename_i heq
        rw [List.nil_append] at heq
        rw [heq] at hhead
        exact absurd rfl hhead
      · rfl

def withoutTrail (cs : List Char) : List Char :=
  (Text.before? ['/'] cs).getD cs

theorem withoutTrail_eq_iff {cs inner : List Char} :
    withoutTrail cs = inner ↔
      ∃ trail, cs = inner ++ trail ∧
        (trail = ['/'] ∨ trail = [] ∧ inner.getLast? ≠ some '/') := by
  unfold withoutTrail
  rcases h : Text.before? ['/'] cs with _ | rest
  · have hlast : cs.getLast? ≠ some '/' := by
      intro hlast
      obtain ⟨rest, hrest⟩ := List.getLast?_eq_some_iff.1 hlast
      rw [Text.before?_eq_some_iff.2 hrest] at h
      cases h
    constructor
    · rintro rfl
      exact ⟨[], (List.append_nil cs).symm, Or.inr ⟨rfl, hlast⟩⟩
    · rintro ⟨_, rfl, rfl | ⟨rfl, -⟩⟩
      · simp at hlast
      · exact List.append_nil inner
  · obtain rfl := Text.before?_eq_some_iff.1 h
    constructor
    · rintro rfl
      exact ⟨['/'], rfl, Or.inl rfl⟩
    · rintro ⟨_, heq, rfl | ⟨rfl, hlast⟩⟩
      · exact List.append_cancel_right heq
      · rw [List.append_nil] at heq
        simp [← heq] at hlast

theorem pathSegments_eq (path : String) :
    pathSegments path =
      slashSegments (withoutTrail (withoutLead (path.toList.takeWhile (· != '?')))) :=
  rfl

theorem hasSegments_iff {path : String} {segments : List (List Char)} :
    HasSegments path segments ↔ pathSegments path = segments := by
  rw [pathSegments_eq, slashSegments_eq_iff, eq_comm (a := ['/'].intercalate segments),
    withoutTrail_eq_iff]
  constructor
  · rintro ⟨hslash, hne, lead, trail, query, hpath, hquery, hhead, hlead, htrail⟩
    have htake := takeWhile_ne_eq_iff.2 ⟨query, hpath, hquery, hhead⟩
    refine ⟨⟨trail, ?_, htrail⟩, hslash, hne⟩
    rw [htake, withoutLead_eq_iff]
    exact ⟨lead, List.append_assoc _ _ _, hlead⟩
  · rintro ⟨⟨trail, hrest, htrail⟩, hslash, hne⟩
    obtain ⟨lead, hbefore, hlead⟩ := withoutLead_eq_iff.1 hrest
    obtain ⟨query, hpath, hquery, hhead⟩ := takeWhile_ne_eq_iff.1 hbefore
    rw [← List.append_assoc] at hpath hquery
    exact ⟨hslash, hne, lead, trail, query, hpath, hquery, hhead, hlead, htrail⟩

end Url

end StubServer
