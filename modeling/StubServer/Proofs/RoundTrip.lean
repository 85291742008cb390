import Mathlib.Data.List.Basic
import Mathlib.Data.List.Forall2
import StubServer.Config.Load
import StubServer.Proofs.Records

/-!
# Configurations are loaded as they were written

A configuration that was loaded, in whatever form, is written in one form, and that is loaded as
the same configuration (`loadJson_write_toJson`). All that a rule, a response or a route has to be
for this is what reading has ensured.
-/

namespace StubServer

variable {ε α : Type}

/-! ## Single values -/

theorem kept_text (levels : Nat) (s : String) :
    Kept (Reader.text : Reader ε String) .string levels s :=
  ⟨rfl, .string s⟩

theorem kept_boolean (levels : Nat) (b : Bool) :
    Kept (Reader.boolean : Reader ε Bool) .bool levels b :=
  ⟨rfl, .bool b⟩

theorem ofValue_ofNat {n : Nat} (hn : n < Number.size64) :
    Document.ofValue (.ofNat n) = .integer n := by
  have hsign : toString n ≠ "-0" := by
    intro h
    have hdigit : '-' ∈ Nat.toDigits 10 n := by
      rw [← Number.toList_toString, h]
      decide
    exact absurd (Number.isDigit_toDigits hdigit) (by decide)
  have hleast : ¬ (n : Int) < Number.minInt64 := by
    simp only [Number.minInt64]
    omega
  have hmost : ¬ (Number.size64 : Int) ≤ n := by omega
  rw [Json.ofNat, Document.ofValue, Document.ofNumber, Number.readInteger?_toString]
  simp only [hsign, hleast, hmost, decide_false, Bool.or_self, Bool.false_eq_true, if_false]

theorem kept_natural {bound n : Nat} (hbound : bound ≤ Number.size64) (hn : n < bound)
    (levels : Nat) : Kept (Reader.natural bound : Reader ε Nat) .ofNat levels n := by
  refine ⟨?_, .number n⟩
  rw [ofValue_ofNat (by omega)]
  simp [Reader.natural, hn]

theorem lt_of_natural {bound n : Nat} {d : Document}
    (h : (Reader.natural bound : Reader ε Nat) d = .ok n) : n < bound := by
  have hint {m : Int} (h : (if 0 ≤ m ∧ m < bound then .ok m.toNat else .error .malformed :
      Except (ReadError ε) Nat) = .ok n) : n < bound := by
    split at h <;> cases h
    omega
  cases d with
  | integer m => exact hint h
  | plain s =>
    simp only [Reader.natural] at h
    cases hs : Reader.plainInteger? s with
    | none =>
      rw [hs] at h
      cases h
    | some m =>
      rw [hs] at h
      exact hint h
  | _ => cases h

theorem lt_of_natural_field {place bound fallback n : Nat} {name : String} {members : Members}
    (h : (Fields.defaulted place name fallback
      (Reader.natural bound : Reader ε Nat)).Reads members n)
    (hfallback : fallback < bound) : n < bound := by
  rcases h.of_field with heq | ⟨d, -, hread⟩
  · exact Option.some.inj heq ▸ hfallback
  · exact lt_of_natural hread

theorem reads_optional_text {place : Nat} {name : String} {others : List String} {o : Option String}
    {fields : List (String × Json)}
    (h : Fields.named (name :: others) fields = o.toList.map Json.string) :
    Fields.Reads
      (Fields.field place name others (some none) (Reader.orNull (Reader.text : Reader ε String)))
      (.named (Document.ofFields fields)) o := by
  cases o with
  | none => exact Fields.reads_field_of_absent h
  | some s => exact Fields.reads_field_of_named h rfl

theorem of_orNull_eq_some {read : Reader ε α} {d : Document} {a : α}
    (h : Reader.orNull read d = .ok (some a)) : read d = .ok a := by
  unfold Reader.orNull at h
  split at h
  · cases h
  · split at h
    · cases h
    · simpa [map_eq_ok] using h
  · simpa [map_eq_ok] using h

/-- What is read as a list in a field is empty or made of what is read two levels below. -/
theorem of_list_field {read : Reader ε α} {place : Nat} {name : String} {others : List String}
    {members : Members} {as : List α} {levels : Nat} {P : α → Prop}
    (h : (Fields.field place name others (some []) (Reader.list read)).Reads members as)
    (hmembers : ∀ d ∈ members.documents, d.Within (levels + 1))
    (hread : ∀ d a, d.Within levels → read d = .ok a → P a) : ∀ a ∈ as, P a := by
  rcases h.of_field with hnil | ⟨d, hd, hlist⟩
  · cases hnil
    simp
  · obtain ⟨below, hbelow, hitems⟩ := Reader.of_list_eq_ok hlist (hmembers d hd)
    obtain rfl : levels = below := by omega
    intro a ha
    obtain ⟨d, hd, hread'⟩ := hitems a ha
    exact hread d a hd hread'

theorem Document.height_le_heightOfItems {d : Document} {ds : List Document} (h : d ∈ ds) :
    d.height ≤ heightOfItems ds := by
  induction ds with
  | nil => cases h
  | cons e ds ih =>
    rw [heightOfItems]
    rcases List.mem_cons.1 h with rfl | h
    · exact Nat.le_max_left _ _
    · exact Nat.le_trans (ih h) (Nat.le_max_right _ _)

/-! ## Rules -/

/-- The rule was made from its parts, and nests at most so many levels deep. -/
inductive Rule.Sound : Nat → Rule → Prop
  | single {levels : Nat} {r : SingleRule}
      (h : SingleRule.make r.field r.key r.value r.test.operation r.negate = .ok r) :
      Sound (levels + 1) (.single r)
  | aggregate {levels : Nat} {op : Combinator} {rules : List Rule}
      (h : ∀ r ∈ rules, Sound levels r) : Sound (levels + 2) (.aggregate op rules)

theorem RuleField.ofName?_name (f : RuleField) : ofName? f.name = some f := by
  cases f <;> decide +kernel

theorem RuleOperation.ofName?_name (op : RuleOperation) : ofName? op.name = some op := by
  cases op <;> decide +kernel

theorem Combinator.ofName?_name (op : Combinator) : ofName? op.name = some op := by
  cases op <;> decide +kernel

/-- No operation of a single rule is taken for a combinator. -/
theorem Combinator.ofName?_operation (op : RuleOperation) : ofName? op.name = none := by
  cases op <;> decide +kernel

theorem SingleRule.make_eq_ok {field : RuleField} {key value : String} {op : RuleOperation}
    {negate : Bool} {r : SingleRule} (h : make field key value op negate = .ok r) :
    make r.field r.key r.value r.test.operation r.negate = .ok r := by
  have htest : r.field = field ∧ r.key = key ∧ r.value = value ∧ r.test.operation = op ∧
      r.negate = negate := by
    unfold make at h
    split at h
    · cases h
    · obtain ⟨test, htest, heq⟩ := bind_eq_ok.1 h
      cases heq
      refine ⟨rfl, rfl, rfl, ?_, rfl⟩
      cases op with
      | regex =>
        simp only [testOf] at htest
        split at htest <;> cases htest
        rfl
      | _ =>
        cases htest
        rfl
  obtain ⟨rfl, rfl, rfl, rfl, rfl⟩ := htest
  exact h

theorem RuleFields.single_eq_ok {f : RuleFields} {r : SingleRule} (h : f.single = .ok r) :
    SingleRule.make r.field r.key r.value r.test.operation r.negate = .ok r := by
  unfold single at h
  split at h
  · cases h
  · split at h
    · cases h
    · split at h
      · exact SingleRule.make_eq_ok h
      · split at h
        · cases h
        · exact SingleRule.make_eq_ok h

/-- The fields of a rule, with a reader of the rules inside it. -/
def RuleFields.fields (read : Reader RuleError Rule) : Fields RuleError RuleFields :=
  RuleFields.mk
    <$> .optional 0 "type" Reader.text
    <*> .optional 1 "key" Reader.text
    <*> .optional 2 "value" Reader.text
    <*> .field 3 "operation" ["op"] (some none) (Reader.orNull Reader.text)
    <*> .defaulted 4 "negate" false Reader.boolean
    <*> .optional 5 "rules" (Reader.list read)

namespace Rule

theorem readWithin_succ (depth : Nat) (d : Document) :
    readWithin (depth + 1) d =
      (RuleFields.fields (readWithin depth)).read d >>= fun f => f.toRule.mapError .meaning :=
  rfl

/-- What was read as the list of rules of a rule is what the field of this name was read as. -/
theorem reads_rules {read : Reader RuleError Rule} {members : Members} {f : RuleFields}
    (h : (RuleFields.fields read).Reads members f) :
    (Fields.optional 5 "rules" (Reader.list read)).Reads members f.rules := by
  simp only [RuleFields.fields, Fields.reads_seq_iff, Fields.reads_map_iff] at h
  obtain ⟨_, rules, ⟨_, _, ⟨_, _, ⟨_, _, ⟨_, _, ⟨_, -, rfl⟩, -, rfl⟩, -, rfl⟩, -, rfl⟩, -, rfl⟩,
    hrules, rfl⟩ := h
  exact hrules

theorem sound_of_readWithin {depth levels : Nat} {d : Document} {r : Rule}
    (h : readWithin depth d = .ok r) (hd : d.Within levels) : r.Sound levels := by
  induction depth generalizing d r levels with
  | zero => cases h
  | succ depth ih =>
    rw [readWithin_succ] at h
    obtain ⟨f, hf, hrule⟩ := bind_eq_ok.1 h
    obtain ⟨below, members, rfl, hreads, hmembers⟩ := Fields.of_read_eq_ok hf hd
    rw [mapError_eq_ok, RuleFields.toRule] at hrule
    split at hrule
    · split at hrule
      · rename_i rules hrules
        cases hrule
        have hfield := reads_rules hreads
        rw [hrules] at hfield
        obtain hnone | ⟨d, hd, hlist⟩ := hfield.of_field
        · cases hnone
        · obtain ⟨below, rfl, hitems⟩ :=
            Reader.of_list_eq_ok (of_orNull_eq_some hlist) (hmembers d hd)
          refine .aggregate fun r hr => ?_
          obtain ⟨d, hd, hread⟩ := hitems r hr
          exact ih hread hd
      · cases hrule
    · obtain ⟨r, hr, rfl⟩ := map_eq_ok.1 hrule
      exact .single (RuleFields.single_eq_ok hr)

theorem listToJson_eq (rules : List Rule) : listToJson rules = rules.map toJson := by
  induction rules with
  | nil => rfl
  | cons r rules ih => rw [listToJson, ih, List.map_cons]

theorem kept_of_fields {depth levels : Nat} {r : Rule} {f : RuleFields}
    {fields : List (String × Json)} (hjson : r.toJson = .object fields)
    (hreads : (RuleFields.fields (readWithin depth)).Reads (.named (Document.ofFields fields)) f)
    (hwithin : ∀ f ∈ fields, f.2.Within levels) (hrule : f.toRule = .ok r) :
    Kept (readWithin (depth + 1)) toJson (levels + 1) r := by
  refine ⟨?_, hjson ▸ .object hwithin⟩
  rw [hjson, readWithin_succ, Fields.read_ofValue hreads hwithin]
  exact mapError_eq_ok.2 hrule

/-- The fields of a single rule as they are written. -/
def singleFields (r : SingleRule) : List (String × Json) :=
  [("type", .string r.field.name), ("key", .string r.key), ("value", .string r.value),
    ("operation", .string r.test.operation.name)] ++
    if r.negate then [("negate", .bool true)] else []

@[simp]
theorem named_singleFields (names : List String) (r : SingleRule) :
    Fields.named names (singleFields r) =
      Fields.named names [("type", .string r.field.name), ("key", .string r.key),
        ("value", .string r.value), ("operation", .string r.test.operation.name)] ++
        if r.negate ∧ "negate" ∈ names then [.bool true] else [] := by
  rw [singleFields, Fields.named_append]
  cases r.negate <;> simp

theorem single_toRule {r : SingleRule}
    (h : SingleRule.make r.field r.key r.value r.test.operation r.negate = .ok r) :
    RuleFields.toRule ⟨some r.field.name, some r.key, some r.value, some r.test.operation.name,
      r.negate, none⟩ = .ok (.single r) := by
  simp only [RuleFields.toRule, Option.bind_some, Combinator.ofName?_operation, RuleFields.single,
    RuleField.ofName?_name, RuleOperation.ofName?_name, Option.getD_some, h]
  rfl

/-- A rule is read back by a reader that goes deeper than the rule is high. The bound on its levels
is kept apart from that, because a text is limited in levels and a reader of rules in depth. -/
theorem Sound.kept_within {levels : Nat} {r : Rule} (h : r.Sound levels) :
    ∀ depth, (Document.ofValue r.toJson).height < depth →
      Kept (readWithin depth) toJson levels r := by
  induction h with
  | @single levels r h =>
    intro depth hdepth
    obtain ⟨depth, rfl⟩ := Nat.exists_eq_add_of_le' (show 1 ≤ depth by omega)
    have hnegate : Fields.Reads
        (Fields.defaulted 4 "negate" false (Reader.boolean : Reader RuleError Bool))
        (.named (Document.ofFields (singleFields r))) r.negate := by
      rcases hr : r.negate with _ | _
      · exact Fields.reads_field_of_absent (by simp [singleFields, hr])
      · exact Fields.reads_field_of_named (j := .bool true) (by simp [singleFields, hr]) rfl
    have hreads : (RuleFields.fields (readWithin depth)).Reads
        (.named (Document.ofFields (singleFields r))) _ :=
      (Fields.Reads.map (reads_optional_text (o := some r.field.name) (by simp)))
        |>.seq (reads_optional_text (o := some r.key) (by simp))
        |>.seq (reads_optional_text (o := some r.value) (by simp))
        |>.seq (reads_optional_text (o := some r.test.operation.name) (by simp))
        |>.seq hnegate
        |>.seq (Fields.reads_field_of_absent (by simp))
    refine kept_of_fields rfl hreads ?_ (single_toRule h)
    cases r.negate <;> simp [Json.Within.string, Json.Within.bool]
  | @aggregate levels op rules h ih =>
    intro depth hdepth
    have hjson : (Rule.aggregate op rules).toJson =
        .object [("operation", .string op.name), ("rules", .array (rules.map toJson))] := by
      rw [toJson, listToJson_eq]
    have hheight : ∀ r ∈ rules, (Document.ofValue r.toJson).height + 2 < depth := by
      intro r hr
      have hle := Document.height_le_heightOfItems
        (List.mem_map_of_mem (f := Document.ofValue) (List.mem_map_of_mem (f := toJson) hr))
      simp only [hjson, Document.ofValue, Document.ofFields, Document.height,
        Document.heightOfFields, Document.ofItems_eq] at hdepth
      omega
    obtain ⟨depth, rfl⟩ := Nat.exists_eq_add_of_le' (show 1 ≤ depth by omega)
    have hrules : Kept (Reader.list (readWithin depth)) (fun rules => .array (rules.map toJson))
        (levels + 1) rules :=
      kept_list fun r hr => ih r hr depth (by have := hheight r hr; omega)
    have hlist : Reader.orNull (Reader.list (readWithin depth))
        (Document.ofValue (.array (rules.map toJson))) = .ok (some rules) :=
      map_eq_ok.2 ⟨rules, hrules.read_eq, rfl⟩
    have hreads : (RuleFields.fields (readWithin depth)).Reads (.named (Document.ofFields
        [("operation", .string op.name), ("rules", .array (rules.map toJson))])) _ :=
      (Fields.Reads.map (reads_optional_text (o := none) (by simp)))
        |>.seq (reads_optional_text (o := none) (by simp))
        |>.seq (reads_optional_text (o := none) (by simp))
        |>.seq (reads_optional_text (o := some op.name) (by simp))
        |>.seq (Fields.reads_field_of_absent (by simp))
        |>.seq (Fields.reads_field_of_named (by simp) hlist)
    refine kept_of_fields hjson hreads ?_ ?_
    · simpa [Json.Within.string] using hrules.within
    · simp [RuleFields.toRule, Combinator.ofName?_name]

theorem Sound.kept {levels : Nat} {r : Rule} (h : r.Sound levels) :
    Kept Rule.read toJson levels r :=
  ⟨(h.kept_within _ (Nat.lt_succ_self _)).read_eq, (h.kept_within _ (Nat.lt_succ_self _)).within⟩

end Rule

/-! ## Responses, routes and environments -/

theorem Http.MethodSet.read_joined (s : MethodSet) : read s.joined = .ok s := by
  obtain ⟨get, post, put, delete, patch⟩ := s
  revert get post put delete patch
  decide +kernel

namespace Config

theorem kept_body (levels : Nat) (s : String) : Kept readBody .string levels s :=
  ⟨rfl, .string s⟩

theorem kept_strategy (levels : Nat) (s : Strategy) :
    Kept Strategy.read (fun s => .string s.name) levels s :=
  ⟨by cases s <;> rfl, .string _⟩

theorem kept_methods (levels : Nat) (s : Http.MethodSet) :
    Kept readMethods (fun s => .string s.joined) levels s := by
  refine ⟨?_, .string _⟩
  simp only [Document.ofValue, readMethods, pure_bind, Http.MethodSet.read_joined]
  rfl

theorem kept_rule {levels : Nat} {r : Rule} (h : r.Sound levels) :
    Kept readRule Rule.toJson levels r :=
  ⟨mapError_eq_ok.2 h.kept.read_eq, h.kept.within⟩

theorem kept_header (levels : Nat) (h : Header) :
    Kept Header.read Header.toJson (levels + 1) h := by
  refine kept_record rfl ?_ ?_
  · exact (Fields.Reads.map ((kept_text levels h.key).field (by simp)))
      |>.seq ((kept_text levels h.value).field (by simp))
  · simp [Json.Within.string]

/-- The numbers of a response fit, and its rules are sound. -/
structure Response.Sound (levels : Nat) (r : Response) : Prop where
  statusCode : r.statusCode < Number.size16
  delay : r.delay < Number.size64
  rules : ∀ rule ∈ r.rules, rule.Sound levels

@[simp]
theorem named_textField (names : List String) (name : String) (o : Option String) :
    Fields.named names (textField name o) =
      if name ∈ names then o.toList.map Json.string else [] := by
  cases o <;> simp [textField]

theorem within_textField (levels : Nat) (name : String) (o : Option String) :
    ∀ f ∈ textField name o, f.2.Within levels := by
  cases o <;> simp [textField, Json.Within.string]

/-- A sound response is kept. Its headers take a level even if it has no rules. -/
theorem kept_response {levels : Nat} {r : Response} (h : r.Sound (levels + 1)) :
    Kept Response.read Response.toJson (levels + 3) r := by
  have hheaders : Kept (Reader.list Header.read) (fun hs => .array (hs.map Header.toJson))
      (levels + 2) r.headers := kept_list fun header _ => kept_header levels header
  have hrules : Kept (Reader.list readRule) (fun rules => .array (rules.map Rule.toJson))
      (levels + 2) r.rules := kept_list fun rule hrule => kept_rule (h.rules rule hrule)
  refine kept_record rfl ?_ ?_
  · exact (Fields.Reads.map (reads_optional_text (by simp)))
      |>.seq ((kept_text levels r.name).field (by simp))
      |>.seq (reads_optional_text (by simp))
      |>.seq ((kept_natural (by decide) h.statusCode levels).field (by simp))
      |>.seq ((kept_body levels r.body).field (by simp))
      |>.seq (hheaders.field (by simp))
      |>.seq (hrules.field (by simp))
      |>.seq ((kept_natural (by decide) h.delay levels).field (by simp))
      |>.seq ((kept_boolean levels r.disableTemplating).field (by simp))
      |>.seq ((kept_boolean levels r.strictTemplateErrors).field (by simp))
      |>.seq ((kept_boolean levels r.allowResponseCaching).field (by simp))
  · simp only [List.forall_mem_append, List.forall_mem_cons]
    exact ⟨⟨⟨within_textField _ _ _, .string _, by simp⟩, within_textField _ _ _⟩, .number _,
      .string _, hheaders.within, hrules.within, .number _, .bool _, .bool _, .bool _, by simp⟩

theorem sound_of_readRule {levels : Nat} {d : Document} {r : Rule} (h : readRule d = .ok r)
    (hd : d.Within levels) : r.Sound levels :=
  Rule.sound_of_readWithin (mapError_eq_ok.1 h) hd

theorem sound_of_readResponse {levels : Nat} {d : Document} {r : Response}
    (h : Response.read d = .ok r) (hd : d.Within (levels + 2)) : r.Sound levels := by
  obtain ⟨below, members, hbelow, hreads, hmembers⟩ := Fields.of_read_eq_ok h hd
  obtain rfl : below = levels + 1 := by omega
  simp only [Fields.reads_seq_iff, Fields.reads_map_iff] at hreads
  obtain ⟨_, _, ⟨_, _, ⟨_, _, ⟨_, delay, ⟨_, rules, ⟨_, _, ⟨_, _, ⟨_, code, ⟨_, _, ⟨_, _,
    ⟨_, -, rfl⟩, -, rfl⟩, -, rfl⟩, hcode, rfl⟩, -, rfl⟩, -, rfl⟩, hrules, rfl⟩, hdelay, rfl⟩,
    -, rfl⟩, -, rfl⟩, -, rfl⟩ := hreads
  exact ⟨lt_of_natural_field hcode (by decide), lt_of_natural_field hdelay (by decide),
    of_list_field hrules hmembers fun d rule hd hrule => sound_of_readRule hrule hd⟩

/-- All responses of a route are sound. -/
def Route.Sound (levels : Nat) (r : Route) : Prop :=
  ∀ response ∈ r.responses, response.Sound levels

theorem sound_of_readRoute {levels : Nat} {d : Document} {r : Route}
    (h : Route.read d = .ok r) (hd : d.Within (levels + 4)) : r.Sound levels := by
  obtain ⟨below, members, hbelow, hreads, hmembers⟩ := Fields.of_read_eq_ok h hd
  obtain rfl : below = levels + 3 := by omega
  simp only [Fields.reads_seq_iff, Fields.reads_map_iff] at hreads
  obtain ⟨_, _, ⟨_, _, ⟨_, responses, ⟨_, _, ⟨_, _, ⟨_, -, rfl⟩, -, rfl⟩, -, rfl⟩, hresponses, rfl⟩,
    -, rfl⟩, -, rfl⟩ := hreads
  exact of_list_field hresponses hmembers fun d response hd hresponse =>
    sound_of_readResponse hresponse hd

theorem kept_route {levels : Nat} {r : Route} (h : r.Sound (levels + 1)) :
    Kept Route.read Route.toJson (levels + 5) r := by
  have hresponses : Kept (Reader.list Response.read) (fun rs => .array (rs.map Response.toJson))
      (levels + 4) r.responses := kept_list fun response hr => kept_response (h response hr)
  refine kept_record rfl ?_ ?_
  · exact (Fields.Reads.map (reads_optional_text (by simp)))
      |>.seq ((kept_text levels r.urlTemplate).field (by simp))
      |>.seq ((kept_methods levels r.methods).field (by simp))
      |>.seq (hresponses.field (by simp))
      |>.seq ((kept_strategy levels r.strategy).field (by simp))
      |>.seq ((kept_boolean levels r.enabled).field (by simp))
  · simp only [List.forall_mem_append, List.forall_mem_cons]
    exact ⟨within_textField _ _ _, .string _, .string _, hresponses.within, .string _, .bool _,
      by simp⟩

/-- All routes of an environment are sound. -/
def Environment.Sound (levels : Nat) (e : Environment) : Prop :=
  ∀ route ∈ e.routes, route.Sound levels

theorem sound_of_readEnvironment {levels : Nat} {d : Document} {e : Environment}
    (h : Environment.read d = .ok e) (hd : d.Within (levels + 6)) : e.Sound levels := by
  obtain ⟨below, members, hbelow, hreads, hmembers⟩ := Fields.of_read_eq_ok h hd
  obtain rfl : below = levels + 5 := by omega
  obtain ⟨_, routes, hrest, hroutes, rfl⟩ := Fields.reads_seq_iff.1 hreads
  simp only [Fields.reads_seq_iff, Fields.reads_map_iff] at hrest
  obtain ⟨_, _, ⟨_, _, ⟨_, -, rfl⟩, -, rfl⟩, -, rfl⟩ := hrest
  exact of_list_field hroutes hmembers fun d route hd hroute => sound_of_readRoute hroute hd

theorem kept_environment {levels : Nat} {e : Environment} (h : e.Sound (levels + 1)) :
    Kept Environment.read Environment.toJson (levels + 7) e := by
  have hroutes : Kept (Reader.list Route.read) (fun rs => .array (rs.map Route.toJson))
      (levels + 6) e.routes := kept_list fun route hr => kept_route (h route hr)
  refine kept_record rfl ?_ ?_
  · exact (Fields.Reads.map (reads_optional_text (by simp)))
      |>.seq ((kept_text levels e.name).field (by simp))
      |>.seq ((kept_boolean levels e.isActive).field (by simp))
      |>.seq (hroutes.field (by simp))
  · simp only [List.forall_mem_append, List.forall_mem_cons]
    exact ⟨within_textField _ _ _, .string _, .bool _, hroutes.within, by simp⟩

theorem kept_settings (levels : Nat) (s : Settings) :
    Kept Settings.read Settings.toJson (levels + 1) s := by
  refine kept_record rfl ?_ ?_
  · exact (Fields.Reads.map ((kept_boolean levels s.logMatches).field (by simp)))
      |>.seq ((kept_boolean levels s.logUnmatched).field (by simp))
      |>.seq ((kept_text levels s.defaultContentType).field (by simp))
  · simp [Json.Within.string, Json.Within.bool]

end Config

/-! ## Configurations -/

namespace Configuration

/-- All environments of a configuration are sound. -/
def Sound (levels : Nat) (c : Configuration) : Prop :=
  ∀ e ∈ c.environments, e.Sound levels

theorem sound_of_read {levels : Nat} {d : Document} {c : Configuration}
    (h : Configuration.read d = .ok c) (hd : d.Within (levels + 8)) : c.Sound levels := by
  obtain ⟨below, members, hbelow, hreads, hmembers⟩ := Fields.of_read_eq_ok h hd
  obtain rfl : below = levels + 7 := by omega
  simp only [Fields.reads_seq_iff, Fields.reads_map_iff] at hreads
  obtain ⟨_, _, ⟨environments, henvironments, rfl⟩, -, rfl⟩ := hreads
  exact of_list_field henvironments hmembers fun d e hd he => Config.sound_of_readEnvironment he hd

theorem kept {levels : Nat} {c : Configuration} (h : c.Sound (levels + 1)) :
    Kept Configuration.read toJson (levels + 9) c := by
  have henvironments : Kept (Reader.list Config.Environment.read)
      (fun es => .array (es.map Config.Environment.toJson)) (levels + 8) c.environments :=
    kept_list fun e he => Config.kept_environment (h e he)
  have hsettings := Config.kept_settings (levels + 7) c.settings
  refine kept_record rfl ?_ ?_
  · exact (Fields.Reads.map (henvironments.field (by simp))) |>.seq (hsettings.field (by simp))
  · simp only [List.forall_mem_cons]
    exact ⟨henvironments.within, hsettings.within, by simp⟩

theorem ofJsonText_eq_ok_iff {text : String} {c : Configuration} :
    ofJsonText text = .ok c ↔
      Configuration.read (Document.ofJsonText text).1 = .ok c ∧ (Document.ofJsonText text).2 := by
  simp only [ofJsonText, bind_eq_ok]
  constructor
  · rintro ⟨c', hread, hcomplete⟩
    split at hcomplete <;> cases hcomplete
    exact ⟨hread, by assumption⟩
  · rintro ⟨hread, hcomplete⟩
    exact ⟨c, hread, by rw [if_pos hcomplete]; rfl⟩

theorem loadJson_eq_ok_iff {text : String} {c : Configuration} :
    loadJson text = .ok c ↔ ofJsonText text = .ok c ∧ c.validate = .ok () := by
  simp only [loadJson, bind_eq_ok, mapError_eq_ok, pure_eq_ok]
  constructor
  · rintro ⟨c, hread, _, hvalid, rfl⟩
    exact ⟨hread, hvalid⟩
  · rintro ⟨hread, hvalid⟩
    exact ⟨c, hread, (), hvalid, rfl⟩

/-- A configuration that was loaded from a text in any of the accepted forms is loaded again, the
same in every part, from the text that is written for it. -/
theorem loadJson_write_toJson {text : String} {c : Configuration} (h : loadJson text = .ok c) :
    loadJson c.toJson.write = .ok c := by
  obtain ⟨hread, hvalid⟩ := loadJson_eq_ok_iff.1 h
  -- Of the 127 levels that readers reach, eight lie above the rules.
  have hsound : c.Sound 119 := sound_of_read (ofJsonText_eq_ok_iff.1 hread).1
    (Document.ofJsonText_within (by decide) text)
  have hkept : Kept Configuration.read toJson 127 c := kept hsound
  have htext := Document.ofJsonText_write hkept.within (by decide)
  refine loadJson_eq_ok_iff.2 ⟨ofJsonText_eq_ok_iff.2 ?_, hvalid⟩
  rw [htext]
  exact ⟨hkept.read_eq, rfl⟩

/-- A configuration in short, with a list of methods, another name for a field, names in other cases
and much left out. -/
def shortText : String :=
  "\x7b\"environments\":[\x7b\"active\":true,\"routes\":[\x7b\"urlTemplate\":\"/a\"," ++
  "\"httpMethod\":[\"post\",\"Get\"],\"responses\":[\x7b\"rules\":" ++
  "[\x7b\"op\":\"or\",\"rules\":[]\x7d]\x7d]\x7d]\x7d]\x7d"

theorem shortText_loadJson_write :
    ∃ c, loadJson shortText = .ok c ∧ loadJson c.toJson.write = .ok c ∧
      c.activeRoutes.map Config.Route.key = ["GET, POST /a"] := by
  have hload : (loadJson shortText).toOption.map (fun c => c.activeRoutes.map Config.Route.key) =
      some ["GET, POST /a"] := by decide +kernel
  obtain ⟨c, hc, hkeys⟩ := Option.map_eq_some_iff.1 hload
  rcases h : loadJson shortText with e | c' <;> rw [h] at hc <;> cases hc
  exact ⟨c, rfl, loadJson_write_toJson h, hkeys⟩

end Configuration

end StubServer
