/-!
# Blank characters

The characters of Unicode's `White_Space` property, and the trimming and splitting of text at
them. Everything is stated on lists of characters; the versions on `String` only convert.
-/

namespace StubServer

namespace Text

/-- The character has the Unicode property `White_Space`. -/
def isBlank (c : Char) : Bool :=
  let n := c.toNat
  (9 ≤ n && n ≤ 13) || n == 0x20 || n == 0x85 || n == 0xA0 || n == 0x1680 ||
    (0x2000 ≤ n && n ≤ 0x200A) || n == 0x2028 || n == 0x2029 || n == 0x202F || n == 0x205F ||
    n == 0x3000

/-- The list without its longest end on which `p` holds. -/
def dropEndWhile (p : Char → Bool) (cs : List Char) : List Char :=
  (cs.reverse.dropWhile p).reverse

/-- The longest end of the list on which `p` holds. -/
def takeEndWhile (p : Char → Bool) (cs : List Char) : List Char :=
  (cs.reverse.takeWhile p).reverse

/-- The two parts at which a list is cut put together are the list. -/
theorem dropEndWhile_append_takeEndWhile (p : Char → Bool) (cs : List Char) :
    dropEndWhile p cs ++ takeEndWhile p cs = cs := by
  rw [dropEndWhile, takeEndWhile, ← List.reverse_append, List.takeWhile_append_dropWhile,
    List.reverse_reverse]

def trimStartChars (cs : List Char) : List Char :=
  cs.dropWhile isBlank

def trimEndChars (cs : List Char) : List Char :=
  dropEndWhile isBlank cs

def trimChars (cs : List Char) : List Char :=
  trimEndChars (trimStartChars cs)

/-- A text with no blank at either end is not cut. -/
theorem trimChars_of_ends {cs : List Char} (hhead : ∀ c ∈ cs.head?, isBlank c = false)
    (hlast : ∀ c ∈ cs.getLast?, isBlank c = false) : trimChars cs = cs := by
  have hstart : ∀ {ds : List Char}, (∀ c ∈ ds.head?, isBlank c = false) →
      ds.dropWhile isBlank = ds := by
    intro ds hds
    cases ds with
    | nil => rfl
    | cons d ds => simp [hds d rfl]
  rw [trimChars, trimStartChars, hstart hhead, trimEndChars, dropEndWhile,
    hstart (by simpa using hlast), List.reverse_reverse]

/-- What is left has no blank at either end. -/
theorem ends_trimChars (cs : List Char) :
    (∀ c ∈ (trimChars cs).head?, isBlank c = false) ∧
      ∀ c ∈ (trimChars cs).getLast?, isBlank c = false := by
  have hstart : ∀ (ds : List Char), ∀ c ∈ (ds.dropWhile isBlank).head?, isBlank c = false := by
    intro ds c hc
    have h := List.head?_dropWhile_not isBlank ds
    rw [Option.mem_def.1 hc] at h
    simpa using h
  refine ⟨fun c hc => hstart cs c ?_, fun c hc => hstart (trimStartChars cs).reverse c ?_⟩
  · have happ := dropEndWhile_append_takeEndWhile isBlank (trimStartChars cs)
    rw [trimChars, trimEndChars] at hc
    rw [← trimStartChars, ← happ, List.head?_append, Option.mem_def.1 hc]
    rfl
  · rwa [trimChars, trimEndChars, dropEndWhile, List.getLast?_reverse] at hc

theorem trimChars_trimChars (cs : List Char) : trimChars (trimChars cs) = trimChars cs :=
  trimChars_of_ends (ends_trimChars cs).1 (ends_trimChars cs).2

/-- The text without the blanks at its start and its end. -/
def trim (s : String) : String :=
  .ofList (trimChars s.toList)

/-- Nothing but blanks, or nothing at all. -/
def isAllBlank (s : String) : Bool :=
  s.toList.all isBlank

/-- The maximal runs of characters that are not blank; `current` is the run being read,
backwards. -/
def wordsFrom (current : List Char) : List Char → List (List Char)
  | [] => if current.isEmpty then [] else [current.reverse]
  | c :: cs =>
    if isBlank c then
      if current.isEmpty then wordsFrom [] cs else current.reverse :: wordsFrom [] cs
    else wordsFrom (c :: current) cs

/-- The words of a text, in order. -/
def words (s : String) : List String :=
  (wordsFrom [] s.toList).map String.ofList

end Text

end StubServer
