import Mathlib.Data.List.Basic
import StubServer.Http.View
import StubServer.Text.Split

/-!
# Cookie headers

A cookie header has a part for each cookie, a name and a value with an equals sign between them, and
semicolons between the parts, with any blanks around them (`Writes`). A name ends at the first
equals sign of its part, so a value may have more of them. The header reads as the cookies that were
written into it, and of cookies with one name the first counts (`cookie?_of_writes`).
-/

namespace StubServer

namespace Http

namespace CookieHeader

/-- A name and a value that can be told apart in a header. Blanks in front of a name and behind a
value would be taken for those around the semicolon. -/
structure Writable (cookie : String × String) : Prop where
  name : '=' ∉ cookie.1.toList ∧ ';' ∉ cookie.1.toList
  name_start : ∀ c ∈ cookie.1.toList.head?, Text.isBlank c = false
  value : ';' ∉ cookie.2.toList
  value_end : ∀ c ∈ cookie.2.toList.getLast?, Text.isBlank c = false

def cookieChars (cookie : String × String) : List Char :=
  cookie.1.toList ++ '=' :: cookie.2.toList

def AllBlank (cs : List Char) : Prop :=
  ∀ c ∈ cs, Text.isBlank c = true

/-- The parts have the cookies, in order. Other parts may stand between them, which have no equals
sign. -/
inductive Lists : List (String × String) → List (List Char) → Prop
  | nil : Lists [] []
  | cookie {cookie : String × String} {before after : List Char} {cookies : List (String × String)}
      {parts : List (List Char)} (hcookie : Writable cookie) (hbefore : AllBlank before)
      (hafter : AllBlank after) (h : Lists cookies parts) :
      Lists (cookie :: cookies) ((before ++ (cookieChars cookie ++ after)) :: parts)
  | other {part : List Char} {cookies : List (String × String)} {parts : List (List Char)}
      (hequals : '=' ∉ part) (hsemicolon : ';' ∉ part) (h : Lists cookies parts) :
      Lists cookies (part :: parts)

/-- The header is a way to write the cookies. -/
def Writes (cookies : List (String × String)) (header : String) : Prop :=
  ∃ parts, Lists cookies parts ∧ header.toList = [';'].intercalate parts

/-! ## One part -/

theorem AllBlank.notMem {cs : List Char} (h : AllBlank cs) {c : Char}
    (hc : Text.isBlank c = false) : c ∉ cs := by
  intro hmem
  rw [h c hmem] at hc
  cases hc

theorem trimChars_of_allBlank {before cs after : List Char} (hbefore : AllBlank before)
    (hafter : AllBlank after) (hne : cs ≠ []) (hhead : ∀ c ∈ cs.head?, Text.isBlank c = false)
    (hlast : ∀ c ∈ cs.getLast?, Text.isBlank c = false) :
    Text.trimChars (before ++ (cs ++ after)) = cs := by
  have hstart : (before ++ (cs ++ after)).dropWhile Text.isBlank = cs ++ after := by
    refine (Text.takeWhile_dropWhile_iff.2 ⟨rfl, hbefore, ?_⟩).2
    rwa [List.head?_append_of_ne_nil cs hne]
  have hend : (after.reverse ++ cs.reverse).dropWhile Text.isBlank = cs.reverse := by
    refine (Text.takeWhile_dropWhile_iff.2 ⟨rfl, fun c hc => ?_, ?_⟩).2
    · exact hafter c (List.mem_reverse.1 hc)
    · rwa [List.head?_reverse]
  rw [Text.trimChars, Text.trimStartChars, hstart, Text.trimEndChars, Text.dropEndWhile,
    List.reverse_append, hend, List.reverse_reverse]

namespace Writable

variable {cookie : String × String} (h : Writable cookie)

include h

theorem head?_cookieChars : ∀ c ∈ (cookieChars cookie).head?, Text.isBlank c = false := by
  rcases hname : cookie.1.toList with _ | ⟨c, cs⟩
  · rw [cookieChars, hname]
    rintro c ⟨⟩
    decide
  · have hstart := h.name_start
    rw [cookieChars, hname]
    rwa [hname] at hstart

theorem getLast?_cookieChars : ∀ c ∈ (cookieChars cookie).getLast?, Text.isBlank c = false := by
  rw [cookieChars, List.getLast?_append_of_ne_nil _ (List.cons_ne_nil _ _)]
  rcases hvalue : cookie.2.toList with _ | ⟨c, cs⟩
  · rintro c ⟨⟩
    decide
  · have hend := h.value_end
    rw [List.getLast?_cons_cons]
    rwa [hvalue] at hend

theorem cutAt?_part {before after : List Char} (hbefore : AllBlank before)
    (hafter : AllBlank after) :
    Text.cutAt? '=' (Text.trimChars (before ++ (cookieChars cookie ++ after))) =
      some (cookie.1.toList, cookie.2.toList) := by
  rw [trimChars_of_allBlank hbefore hafter (by simp [cookieChars]) h.head?_cookieChars
    h.getLast?_cookieChars]
  exact Text.cutAt?_eq_some_iff.2 ⟨h.name.1, rfl⟩

theorem notMem_part {before after : List Char} (hbefore : AllBlank before)
    (hafter : AllBlank after) : ';' ∉ before ++ (cookieChars cookie ++ after) := by
  simp [cookieChars, hbefore.notMem (c := ';') (by decide), hafter.notMem (c := ';') (by decide),
    h.name.2, h.value]

end Writable

/-- Trimming leaves no character that was not there. -/
theorem cutAt?_trimChars_of_notMem {part : List Char} (h : '=' ∉ part) :
    Text.cutAt? '=' (Text.trimChars part) = none := by
  refine Text.cutAt?_eq_none_iff.2 fun hmem => h ?_
  simp only [Text.trimChars, Text.trimEndChars, Text.dropEndWhile, Text.trimStartChars,
    List.mem_reverse] at hmem
  have hmem' := (List.dropWhile_suffix _).subset hmem
  exact (List.dropWhile_suffix _).subset (List.mem_reverse.1 hmem')

/-! ## All parts -/

variable {cookies : List (String × String)}

namespace Lists

variable {parts : List (List Char)}

theorem notMem (h : Lists cookies parts) : ∀ part ∈ parts, ';' ∉ part := by
  induction h with
  | nil => simp
  | cookie hcookie hbefore hafter _ ih =>
    exact List.forall_mem_cons.2 ⟨hcookie.notMem_part hbefore hafter, ih⟩
  | other _ hsemicolon _ ih => exact List.forall_mem_cons.2 ⟨hsemicolon, ih⟩

theorem filterMap_parts (h : Lists cookies parts) :
    (parts.filterMap fun part => Text.cutAt? '=' (Text.trimChars part)) =
      cookies.map fun p => (p.1.toList, p.2.toList) := by
  induction h with
  | nil => rfl
  | cookie hcookie hbefore hafter _ ih =>
    simp only [List.filterMap_cons, hcookie.cutAt?_part hbefore hafter, ih, List.map_cons]
  | other hequals _ _ ih =>
    simp only [List.filterMap_cons, cutAt?_trimChars_of_notMem hequals, ih]

/-- A header without a part is one part without a character. -/
theorem cookiePairs_intercalate (h : Lists cookies parts) :
    View.cookiePairs ([';'].intercalate parts) =
      cookies.map fun p => (p.1.toList, p.2.toList) := by
  rw [View.cookiePairs, Text.splitAtChar_eq_splitOn]
  by_cases hparts : parts = []
  · subst hparts
    cases h
    rfl
  · rw [List.splitOn_intercalate ';' h.notMem hparts, h.filterMap_parts]

end Lists

/-! ## Looking up -/

theorem lookup_map_toList (cookies : List (String × String)) (name : String) :
    (((cookies.map fun p => (p.1.toList, p.2.toList)).lookup name.toList).map String.ofList) =
      cookies.lookup name := by
  induction cookies with
  | nil => rfl
  | cons p cookies ih =>
    rw [List.map_cons, List.lookup_cons, List.lookup_cons]
    by_cases hname : name = p.1
    · simp [hname]
    · have hchars : ¬ name.toList = p.1.toList := mt String.toList_inj.1 hname
      rw [beq_false_of_ne hname, beq_false_of_ne hchars]
      exact ih

/-- Headers of other names do not come in the way. -/
theorem header?_foldl_withHeader {others : List (String × String)}
    (hothers : ∀ p ∈ others, Text.sameName p.1 "Cookie" = false) (v : View) :
    (others.foldl (fun v p => v.withHeader p.1 p.2) v).header? "cookie" = v.header? "cookie" := by
  induction others generalizing v with
  | nil => rfl
  | cons p others ih =>
    rw [List.forall_mem_cons] at hothers
    have hne : ¬ Text.asciiLower "cookie" = Text.asciiLower p.1 := by
      intro heq
      have hcookie : Text.asciiLower "cookie" = Text.asciiLower "Cookie" := by decide
      simp [Text.sameName, ← hcookie, heq] at hothers
    rw [List.foldl_cons, ih hothers.2, View.header?, View.withHeader, Bindings.get?_insert,
      if_neg hne, View.header?]

theorem header?_withHeader {name : String} (hname : Text.sameName name "Cookie" = true) (v : View)
    (header : String) : (v.withHeader name header).header? "cookie" = some header := by
  have hcookie : Text.asciiLower "cookie" = Text.asciiLower "Cookie" := by decide
  rw [View.header?, View.withHeader, Bindings.get?_insert, if_pos]
  rw [hcookie, ← beq_iff_eq.1 hname]

/-- When cookies are written into the header called `Cookie`, in whatever case, and no header that
comes later has this name, a request has the value of the first cookie with a name, and none when
no cookie has it. -/
theorem cookie?_of_writes {header name : String} {others : List (String × String)}
    (h : Writes cookies header) (hname : Text.sameName name "Cookie" = true)
    (hothers : ∀ p ∈ others, Text.sameName p.1 "Cookie" = false) (v : View) (n : String) :
    let seen := others.foldl (fun v p => v.withHeader p.1 p.2) (v.withHeader name header)
    (∀ value, seen.cookie? n = some value ↔
        ∃ before after, cookies = before ++ (n, value) :: after ∧ ∀ p ∈ before, p.1 ≠ n) ∧
      (seen.cookie? n = none ↔ ∀ p ∈ cookies, p.1 ≠ n) := by
  intro seen
  have hlookup : seen.cookie? n = cookies.lookup n := by
    obtain ⟨parts, hparts, hheader⟩ := h
    rw [View.cookie?, header?_foldl_withHeader hothers, header?_withHeader hname, Option.bind_some,
      hheader, hparts.cookiePairs_intercalate, lookup_map_toList]
  rw [hlookup]
  refine ⟨fun value => ?_, ?_⟩
  · simp only [List.lookup_eq_some_iff, bne_iff_ne, ne_comm]
  · simp only [List.lookup_eq_none_iff, bne_iff_ne, ne_comm]

/-- A name twice, one that begins as another does, an empty value, an equals sign in a value, a part
that is no cookie and an empty one. -/
def crowded : String :=
  " ab=1; a = x=y ;nothing; ; a=2;b=\t"

theorem crowded_cookie?_of_writes :
    Writes [("ab", "1"), ("a ", " x=y"), ("a", "2"), ("b", "")] crowded ∧
      Text.sameName "cOOKIE" "Cookie" = true ∧ Text.sameName "Cookies" "Cookie" = false ∧
      let seen := ((View.ofTarget "GET" "/").withHeader "cOOKIE" crowded).withHeader "Cookies" "a=3"
      seen.cookie? "a" = some "2" ∧ seen.cookie? "a " = some " x=y" ∧ seen.cookie? "b" = some "" ∧
        seen.cookie? "nothing" = none := by
  have hnone : AllBlank [] := nofun
  have hblank : AllBlank [' '] := List.forall_mem_singleton.2 (by decide)
  have htab : AllBlank ['\t'] := List.forall_mem_singleton.2 (by decide)
  have hnothing : '=' ∉ "nothing".toList := by decide
  have hempty : '=' ∉ [' '] := by decide
  have hplain : Writable ("ab", "1") :=
    ⟨by decide, by simp [Text.isBlank], by decide, by simp [Text.isBlank]⟩
  have hspaced : Writable ("a ", " x=y") :=
    ⟨by decide, by simp [Text.isBlank], by decide, by simp [Text.isBlank]⟩
  have hagain : Writable ("a", "2") :=
    ⟨by decide, by simp [Text.isBlank], by decide, by simp [Text.isBlank]⟩
  have hvalueless : Writable ("b", "") :=
    ⟨by decide, by simp [Text.isBlank], by decide, by simp [Text.isBlank]⟩
  have hwrites : Writes [("ab", "1"), ("a ", " x=y"), ("a", "2"), ("b", "")] crowded :=
    ⟨[_, _, _, _, _, _],
      .cookie hplain hblank hnone (.cookie hspaced hblank hblank
        (.other hnothing (by decide) (.other hempty (by decide)
          (.cookie hagain hblank hnone (.cookie hvalueless hnone htab .nil))))),
      by decide⟩
  have hname : Text.sameName "cOOKIE" "Cookie" = true := by decide
  have hother : Text.sameName "Cookies" "Cookie" = false := by decide
  have hothers : ∀ p ∈ [("Cookies", "a=3")], Text.sameName p.1 "Cookie" = false := by
    simpa using hother
  have hseen := cookie?_of_writes hwrites hname hothers (View.ofTarget "GET" "/")
  refine ⟨hwrites, hname, hother, ?_, ?_, ?_, ?_⟩
  · exact ((hseen "a").1 "2").2 ⟨[("ab", "1"), ("a ", " x=y")], [("b", "")], rfl, by decide⟩
  · exact ((hseen "a ").1 " x=y").2 ⟨[("ab", "1")], [("a", "2"), ("b", "")], rfl, by decide⟩
  · exact ((hseen "b").1 "").2 ⟨[("ab", "1"), ("a ", " x=y"), ("a", "2")], [], rfl, by decide⟩
  · exact (hseen "nothing").2.2 (by decide)

end CookieHeader

end Http

end StubServer
