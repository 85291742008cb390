import StubServer.Http.Request

/-!
# Writing request lines

A request is written on one line: its method, its target, and for each header its name with a colon
behind it and the words of its value, with blanks between neighbours (`Spaced`). Nothing is quoted.
A header is told from the words before it by its colon alone, so a word may end in a colon only if
it is nothing else. A line that is written in this way reads as the request (`readLine_spaced`).
-/

namespace StubServer

namespace Text

/-- Not empty and without blanks. -/
def IsWord (cs : List Char) : Prop :=
  cs ≠ [] ∧ ∀ c ∈ cs, isBlank c = false

/-- The characters are the words in order, with at least one blank between neighbours. -/
inductive Spaced : List (List Char) → List Char → Prop
  | single (word : List Char) : Spaced [word] word
  | cons (word : List Char) {gap : List Char} {words : List (List Char)} {cs : List Char}
      (hne : gap ≠ []) (hgap : ∀ c ∈ gap, isBlank c = true) (h : Spaced words cs) :
      Spaced (word :: words) (word ++ (gap ++ cs))

theorem wordsFrom_append {word : List Char} (hword : ∀ c ∈ word, isBlank c = false)
    (current cs : List Char) :
    wordsFrom current (word ++ cs) = wordsFrom (word.reverse ++ current) cs := by
  induction word generalizing current with
  | nil => rfl
  | cons c word ih =>
    rw [List.forall_mem_cons] at hword
    rw [List.cons_append, wordsFrom, if_neg (by simp [hword.1]), ih hword.2]
    simp

theorem wordsFrom_gap {gap : List Char} (hgap : ∀ c ∈ gap, isBlank c = true) (cs : List Char) :
    wordsFrom [] (gap ++ cs) = wordsFrom [] cs := by
  induction gap with
  | nil => rfl
  | cons c gap ih =>
    rw [List.forall_mem_cons] at hgap
    rw [List.cons_append, wordsFrom, if_pos hgap.1, if_pos List.isEmpty_nil, ih hgap.2]

/-- The first blank ends the word that is being read. -/
theorem wordsFrom_close {current gap : List Char} (hcurrent : current ≠ []) (hne : gap ≠ [])
    (hgap : ∀ c ∈ gap, isBlank c = true) (cs : List Char) :
    wordsFrom current (gap ++ cs) = current.reverse :: wordsFrom [] cs := by
  obtain ⟨c, gap, rfl⟩ := List.exists_cons_of_ne_nil hne
  rw [List.forall_mem_cons] at hgap
  rw [List.cons_append, wordsFrom, if_pos hgap.1, if_neg (by simpa using hcurrent),
    wordsFrom_gap hgap.2]

theorem wordsFrom_of_spaced {words : List (List Char)} {cs : List Char} (h : Spaced words cs)
    (hwords : ∀ word ∈ words, IsWord word) : wordsFrom [] cs = words := by
  induction h with
  | single word =>
    obtain ⟨hne, hword⟩ := hwords word List.mem_cons_self
    have happend := wordsFrom_append hword [] []
    rw [List.append_nil, List.append_nil] at happend
    rw [happend, wordsFrom, if_neg (by simpa using hne), List.reverse_reverse]
  | cons word hne hgap _ ih =>
    rw [List.forall_mem_cons] at hwords
    obtain ⟨⟨hword, hblank⟩, hrest⟩ := hwords
    rw [wordsFrom_append hblank, List.append_nil, wordsFrom_close (by simpa using hword) hne hgap,
      List.reverse_reverse, ih hrest]

theorem words_of_spaced {words : List String} {line : String}
    (h : Spaced (words.map String.toList) line.toList)
    (hwords : ∀ word ∈ words, IsWord word.toList) : Text.words line = words := by
  rw [Text.words, wordsFrom_of_spaced h (by simpa using hwords), List.map_map]
  simp [Function.comp_def]

theorem asciiUpper_eq_self {s : String} (h : ∀ c ∈ s.toList, ¬('a' ≤ c ∧ c ≤ 'z')) :
    asciiUpper s = s := by
  have hupper : ∀ c ∈ s.toList, c.toUpper = id c := by
    intro c hc
    unfold Char.toUpper
    exact dif_neg fun hlower => h c hc ⟨hlower.1, hlower.2⟩
  rw [asciiUpper, List.map_congr_left hupper, List.map_id, String.ofList_toList]

end Text

namespace Http

/-- A request in the pieces that its line is made of; the values of its headers are lists of
words. -/
structure RequestLine where
  method : String
  path : String
  query : Option String
  headers : List (String × List String)

namespace RequestLine

def target (l : RequestLine) : String :=
  match l.query with
  | some query => l.path ++ "?" ++ query
  | none => l.path

def headerTokens (header : String × List String) : List String :=
  (header.1 ++ ":") :: header.2

/-- The words of the line. -/
def tokens (l : RequestLine) : List String :=
  l.method :: l.target :: l.headers.flatMap headerTokens

/-- A header with its value in one piece. -/
def bound (header : String × List String) : String × String :=
  (header.1, Text.join " " header.2)

/-- The request that is written. -/
def request (l : RequestLine) : Request where
  method := l.method
  path := l.path
  query := l.query
  headers := .ofList (l.headers.map bound)

/-- The pieces can be told from each other on a line. -/
structure WellFormed (l : RequestLine) : Prop where
  method : Text.IsWord l.method.toList
  method_upper : ∀ c ∈ l.method.toList, ¬('a' ≤ c ∧ c ≤ 'z')
  path : ∀ c ∈ l.path.toList, Text.isBlank c = false ∧ c ≠ '?'
  query : ∀ query, l.query = some query → ∀ c ∈ query.toList, Text.isBlank c = false
  target : l.path ≠ "" ∨ l.query ≠ none
  names : ∀ header ∈ l.headers, Text.IsWord header.1.toList
  words : ∀ header ∈ l.headers, ∀ word ∈ header.2, Text.IsWord word.toList ∧
    (word.toList.getLast? = some ':' → word = ":")

/-! ## The words of a line -/

theorem toList_target (l : RequestLine) :
    l.target.toList = l.path.toList ++ l.query.elim [] fun query => '?' :: query.toList := by
  unfold target
  split <;> simp [*]

theorem WellFormed.isWord_target {l : RequestLine} (h : l.WellFormed) :
    Text.IsWord l.target.toList := by
  rw [toList_target]
  refine ⟨fun hempty => ?_, fun c hc => ?_⟩
  · obtain ⟨hpath, hquery⟩ := List.append_eq_nil_iff.1 hempty
    rcases h.target with hne | hne
    · exact hne (String.toList_eq_nil_iff.1 hpath)
    · obtain ⟨query, hsome⟩ := Option.ne_none_iff_exists'.1 hne
      rw [hsome] at hquery
      cases hquery
  · rcases List.mem_append.1 hc with hc | hc
    · exact (h.path c hc).1
    · rcases hsome : l.query with _ | query <;> rw [hsome] at hc
      · cases hc
      · rcases List.mem_cons.1 hc with rfl | hc
        · decide
        · exact h.query query hsome c hc

theorem isWord_name {name : String} (h : Text.IsWord name.toList) :
    Text.IsWord (name ++ ":").toList := by
  rw [String.toList_append]
  refine ⟨by simp, fun c hc => ?_⟩
  rcases List.mem_append.1 hc with hc | hc
  · exact h.2 c hc
  · obtain rfl := List.mem_singleton.1 hc
    decide

theorem WellFormed.isWord {l : RequestLine} (h : l.WellFormed) :
    ∀ token ∈ l.tokens, Text.IsWord token.toList := by
  intro token htoken
  simp only [tokens, List.mem_cons, List.mem_flatMap, headerTokens] at htoken
  rcases htoken with rfl | rfl | ⟨header, hheader, rfl | hword⟩
  · exact h.method
  · exact h.isWord_target
  · exact isWord_name (h.names header hheader)
  · exact (h.words header hheader token hword).1

/-! ## Reading the words -/

theorem ofTarget_target {l : RequestLine} (h : l.WellFormed) :
    Request.ofTarget l.method l.target =
      { method := l.method, path := l.path, query := l.query } := by
  have hpath : '?' ∉ l.path.toList := fun hmem => (h.path _ hmem).2 rfl
  have htarget := l.toList_target
  rcases hquery : l.query with _ | query <;> rw [hquery] at htarget
  · have hcut : Text.cutAt? '?' l.target.toList = none := by
      rw [Option.eq_none_iff_forall_ne_some]
      rintro ⟨before, behind⟩ hcut
      refine hpath ?_
      rw [← List.append_nil l.path.toList, ← Option.elim_none [] _, ← htarget,
        (Text.cutAt?_eq_some_iff.1 hcut).2]
      simp
    rw [Request.ofTarget, hcut, target, hquery]
  · have hcut : Text.cutAt? '?' l.target.toList = some (l.path.toList, query.toList) :=
      Text.cutAt?_eq_some_iff.2 ⟨hpath, htarget⟩
    rw [Request.ofTarget, hcut]
    simp

theorem headerName?_name {name : String} (h : name ≠ "") :
    Request.headerName? (name ++ ":") = some name := by
  have hbefore : Text.before? [':'] (name ++ ":").toList = some name.toList :=
    Text.before?_eq_some_iff.2 (by simp)
  rw [Request.headerName?, hbefore]
  simp [Option.filter_some, h]

/-- A word that begins no header. -/
theorem headerName?_word {word : String} (h : word.toList.getLast? = some ':' → word = ":") :
    Request.headerName? word = none := by
  rcases hbefore : Text.before? [':'] word.toList with _ | name
  · rw [Request.headerName?, hbefore]
    rfl
  · have hlast : word.toList.getLast? = some ':' := by
      rw [Text.before?_eq_some_iff.1 hbefore]
      simp
    rw [h hlast]
    rfl

theorem readHeaders_words {r : Request} {name : String} {words : List String}
    (h : ∀ word ∈ words, Request.headerName? word = none) (read tokens : List String) :
    r.readHeaders (some (name, read)) (words ++ tokens) =
      r.readHeaders (some (name, words.reverse ++ read)) tokens := by
  induction words generalizing read with
  | nil => rfl
  | cons word words ih =>
    rw [List.forall_mem_cons] at h
    have hread := ih h.2 (word :: read)
    simp only [List.cons_append, Request.readHeaders, h.1, hread, List.reverse_cons,
      List.append_assoc, List.nil_append]

/-- Every header is bound when the next one begins or the line ends, whatever header is still being
read when the headers begin. -/
theorem readHeaders_headerTokens {headers : List (String × List String)}
    (hnames : ∀ header ∈ headers, header.1 ≠ "")
    (hwords : ∀ header ∈ headers, ∀ word ∈ header.2, Request.headerName? word = none)
    (r : Request) (current : Option (String × List String)) :
    r.readHeaders current (headers.flatMap headerTokens) =
      let closed := Request.readHeaders.close r current
      .ok { closed with headers := closed.headers.insertAll (headers.map bound) } := by
  induction headers generalizing r current with
  | nil => rfl
  | cons header headers ih =>
    rw [List.forall_mem_cons] at hnames hwords
    simp only [List.flatMap_cons, headerTokens, List.cons_append, Request.readHeaders,
      headerName?_name hnames.1, readHeaders_words hwords.1, ih hnames.2 hwords.2]
    simp [Request.readHeaders.close, Request.withHeader, Bindings.insertAll, bound]

theorem WellFormed.readLine {l : RequestLine} (h : l.WellFormed) {line : String}
    (hline : Text.Spaced (l.tokens.map String.toList) line.toList) :
    Request.readLine line = .ok l.request := by
  have hnames : ∀ header ∈ l.headers, header.1 ≠ "" := fun header hheader hempty =>
    (h.names header hheader).1 (by simp [hempty])
  have hwords : ∀ header ∈ l.headers, ∀ word ∈ header.2, Request.headerName? word = none :=
    fun header hheader word hword => headerName?_word (h.words header hheader word hword).2
  rw [Request.readLine, Text.words_of_spaced hline h.isWord, tokens]
  simp only [Text.asciiUpper_eq_self h.method_upper]
  rw [ofTarget_target h, readHeaders_headerTokens hnames hwords]
  rfl

end RequestLine

/-- A line with the method, the target and the headers of a request, with any blanks between its
words, reads as this request. Of headers with one name the last counts. -/
theorem Request.readLine_spaced {l : RequestLine} (h : l.WellFormed) {line : String}
    (hline : Text.Spaced (l.tokens.map String.toList) line.toList) :
    Request.readLine line = .ok l.request ∧
      ∀ name value, l.request.headers.get? name = some value ↔
        ∃ before words after, l.headers = before ++ (name, words) :: after ∧
          value = Text.join " " words ∧ ∀ header ∈ after, header.1 ≠ name := by
  refine ⟨h.readLine hline, fun name value => ?_⟩
  rw [RequestLine.request, Bindings.get?_ofList_eq_some_iff_last]
  constructor
  · rintro ⟨before, after, hheaders, hafter⟩
    obtain ⟨before, rest, hl, rfl, hrest⟩ := List.map_eq_append_iff.1 hheaders
    obtain ⟨header, after, rfl, hheader, rfl⟩ := List.map_eq_cons_iff.1 hrest
    obtain ⟨rfl, rfl⟩ := Prod.mk.inj hheader
    exact ⟨before, header.2, after, hl, rfl, fun other hother =>
      hafter _ (List.mem_map_of_mem hother)⟩
  · rintro ⟨before, words, after, hl, rfl, hafter⟩
    refine ⟨before.map RequestLine.bound, after.map RequestLine.bound, ?_, fun _ hmem => ?_⟩
    · rw [hl, List.map_append, List.map_cons, RequestLine.bound]
    · obtain ⟨other, hother, rfl⟩ := List.mem_map.1 hmem
      exact hafter other hother

/-- A header that is given twice, the second time without a value, and a word that is a colon. -/
def tagged : RequestLine :=
  ⟨"PUT", "/a", some "", [("X-Tag", ["b:c", ":"]), ("X-Tag", [])]⟩

theorem tagged_readLine :
    Request.readLine "PUT /a?\t\tX-Tag: b:c : \nX-Tag:" = .ok tagged.request ∧
      tagged.request.headers.get? "X-Tag" = some "" := by
  have hformed : tagged.WellFormed := by
    constructor <;> simp [tagged, Text.IsWord, Text.isBlank]
  have hline : Text.Spaced (tagged.tokens.map String.toList)
      "PUT /a?\t\tX-Tag: b:c : \nX-Tag:".toList :=
    .cons "PUT".toList (List.cons_ne_nil ' ' []) (by simp [Text.isBlank])
      (.cons "/a?".toList (List.cons_ne_nil '\t' ['\t']) (by simp [Text.isBlank])
        (.cons "X-Tag:".toList (List.cons_ne_nil ' ' []) (by simp [Text.isBlank])
          (.cons "b:c".toList (List.cons_ne_nil ' ' []) (by simp [Text.isBlank])
            (.cons ":".toList (List.cons_ne_nil ' ' ['\n']) (by simp [Text.isBlank])
              (.single "X-Tag:".toList)))))
  obtain ⟨hread, hget⟩ := Request.readLine_spaced hformed hline
  exact ⟨hread, (hget _ _).2 ⟨[_], [], [], rfl, rfl, nofun⟩⟩

end Http

end StubServer
