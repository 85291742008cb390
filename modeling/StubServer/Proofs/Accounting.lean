import StubServer.Proofs.Restart

/-!
# What a server counts

A request counts in the total and, besides, as matched or as unmatched, unless it asks for the
environments. The tags of the answer tell which (`step_adds`). So the counts of a server are the
numbers of such answers in its history, as long as they fit into 64 bits (`counts_of_run`). A
request for which a response is picked is matched whatever becomes of it: the response may have the
status 404 or a template that fails.
-/

namespace StubServer

namespace Server

open Http (Tag)

/-! ## Answers by their tags -/

@[simp]
def Event.isRequest : Event → Bool
  | request _ => true
  | update _ => false

/-- The tags of an answer; the reply to an update has none. -/
@[simp]
def Reply.tags : Reply → List Tag
  | answer a _ => a.response.tags
  | configured => []
  | refused _ => []

@[simp]
def Reply.isMatched (r : Reply) : Bool :=
  .mocked ∈ r.tags ∧ .notFound ∉ r.tags

@[simp]
def Reply.isUnmatched (r : Reply) : Bool :=
  .notFound ∈ r.tags

@[simp]
def Reply.isSystem (r : Reply) : Bool :=
  .system ∈ r.tags

@[simp]
theorem tags_environmentsResponse (s : Server) : s.environmentsResponse.tags = [.system] := rfl

@[simp]
theorem tags_notFound (message : String) : (notFound message).tags = [.mocked, .notFound] := rfl

@[simp]
theorem tags_build (r : Config.Response) (body : RenderedBody) (contentType : String) :
    (r.build body contentType).tags = [.mocked] := by
  rw [Config.Response.build_eq]

/-- A response that was picked has the tag of its kind, and at most that of a template error beside
it. -/
theorem tags_answer (r : Config.Response) (now : Time.Instant) (v : Http.View)
    (contentType : String) (draws : Draws) :
    (r.answer now v contentType draws).1.tags = [.mocked] ∨
      (r.answer now v contentType draws).1.tags = [.mocked, .templateError] := by
  unfold Config.Response.answer
  rcases r.renderBody now v draws with ⟨e | body, left⟩
  · exact Or.inr rfl
  · exact Or.inl (tags_build r body contentType)

/-! ## One event -/

/-- What an event adds to the counts. -/
structure Adds (s : Server) (e : Event) (reply : Reply) (s' : Server) : Prop where
  total : s'.total = s.total + if e.isRequest then 1 else 0
  matched : s'.matched = s.matched + if reply.isMatched then 1 else 0
  unmatched : s'.unmatched = s.unmatched + if reply.isUnmatched then 1 else 0
  /-- The reply to a request is of just one kind, and that to an update of none. -/
  kinds : e.isRequest.toNat =
    reply.isMatched.toNat + reply.isUnmatched.toNat + reply.isSystem.toNat

theorem step_adds {s s' : Server} {e : Event} {reply : Reply}
    (hstep : s.step e = some (reply, s')) : s.Adds e reply s' := by
  cases steps hstep with
  | @answers a _ _ _ hhandle =>
    cases handles hhandle with
    | lists _ => constructor <;> simp
    | misses _ _ => constructor <;> simp
    | @picks pick _ left _ _ =>
      rcases tags_answer pick.response a.now pick.view s.config.settings.defaultContentType left
        with htags | htags <;> constructor <;> simp [answerTo, htags]
  | refuses _ => constructor <;> simp
  | takes _ => constructor <;> simp

/-- A request for which a response is picked is matched, whatever answer the response gives. -/
theorem step_of_pick {s s' : Server} {a : Arrival} {reply : Reply} {pick : Pick} {store : Store}
    {left : Draws} (hstep : s.step (.request a) = some (reply, s'))
    (henvironments : asksForEnvironments a.request = false)
    (hdispatch : dispatch s.routes a.request s.store a.draws = some ((.ok pick, store), left)) :
    s'.matched = s.matched + 1 ∧ s'.unmatched = s.unmatched := by
  cases steps hstep with
  | answers hhandle =>
    cases handles hhandle with
    | lists henvironments' => simp [henvironments] at henvironments'
    | misses _ hdispatch' => simp [hdispatch] at hdispatch'
    | picks _ _ => exact ⟨rfl, rfl⟩

/-! ## A history -/

/-- What each step adds to a count if its event and reply are of a kind, a run adds for each such
event and reply. -/
theorem run_adds (count : Server → UInt64) (p : Event × Reply → Bool)
    (hp : ∀ {s t : Server} {e : Event} {reply : Reply}, s.step e = some (reply, t) →
      count t = count s + if p (e, reply) then 1 else 0) :
    ∀ (es : List Event) {s s' : Server} {transcript : List (Event × Reply)},
      s.run es = some (transcript, s') → count s' = count s + .ofNat (transcript.countP p)
  | [], s, s', _, hrun => by
    cases hrun
    simp
  | e :: es, s, s', _, hrun => by
    obtain ⟨reply, t, rest, hstep, hrest, rfl⟩ := run_cons_eq_some.1 hrun
    rw [run_adds count p hp es hrest, hp hstep, List.countP_cons, UInt64.ofNat_add]
    split <;> simp [UInt64.add_assoc, UInt64.add_comm]

/-- Each event and reply of a history comes of a step. -/
theorem exists_step_of_mem :
    ∀ (es : List Event) {s s' : Server} {transcript : List (Event × Reply)},
      s.run es = some (transcript, s') →
        ∀ x ∈ transcript, ∃ t t' : Server, t.step x.1 = some (x.2, t')
  | [], _, _, _, hrun, x, hx => by
    cases hrun
    cases hx
  | e :: es, s, _, _, hrun, x, hx => by
    obtain ⟨reply, t, rest, hstep, hrest, rfl⟩ := run_cons_eq_some.1 hrun
    rcases List.mem_cons.1 hx with rfl | hx
    · exact ⟨s, t, hstep⟩
    · exact exists_step_of_mem es hrest x hx

/-- A history has all the events that came. -/
theorem map_fst_of_run :
    ∀ (es : List Event) {s s' : Server} {transcript : List (Event × Reply)},
      s.run es = some (transcript, s') → transcript.map Prod.fst = es
  | [], _, _, _, hrun => by
    cases hrun
    rfl
  | e :: es, _, _, _, hrun => by
    obtain ⟨reply, t, rest, -, hrest, rfl⟩ := run_cons_eq_some.1 hrun
    rw [List.map_cons, map_fst_of_run es hrest]

theorem countP_isRequest_of_run {es : List Event} {s s' : Server}
    {transcript : List (Event × Reply)} (hrun : s.run es = some (transcript, s')) :
    transcript.countP (·.1.isRequest) = es.countP Event.isRequest := by
  rw [← map_fst_of_run es hrun, List.countP_map]
  rfl

/-- The requests of a history are those of the three kinds. -/
theorem countP_kinds {transcript : List (Event × Reply)}
    (h : ∀ x ∈ transcript, ∃ t t' : Server, t.step x.1 = some (x.2, t')) :
    transcript.countP (·.1.isRequest) =
      transcript.countP (·.2.isMatched) + transcript.countP (·.2.isUnmatched) +
        transcript.countP (·.2.isSystem) := by
  induction transcript with
  | nil => rfl
  | cons x transcript ih =>
    obtain ⟨t, t', hstep⟩ := h x List.mem_cons_self
    have hkinds := (step_adds hstep).kinds
    have hrest := ih fun y hy => h y (List.mem_cons_of_mem _ hy)
    have hcons (b : Bool) : (if b = true then 1 else 0) = b.toNat := by cases b <;> rfl
    simp only [List.countP_cons, hcons]
    omega

/-- After a history of fewer than 2⁶⁴ requests the total is their number, and the matched, the
unmatched and the answers for the environments make it up. A further request adds to the unmatched
exactly if its answer says that nothing was found, and to the matched exactly if it is another
answer of the routes, as each is that is made with a response. -/
theorem counts_of_run {config : Configuration} {events : List Event}
    {transcript : List (Event × Reply)} {s : Server}
    (hrun : (ofConfig config).run events = some (transcript, s))
    (hfew : events.countP Event.isRequest < UInt64.size) :
    s.total.toNat = events.countP Event.isRequest ∧
      s.total.toNat = s.matched.toNat + s.unmatched.toNat +
        transcript.countP (fun x => decide (.system ∈ x.2.tags)) ∧
      ∀ (a : Arrival) (reply : Reply) (s' : Server), s.step (.request a) = some (reply, s') →
        s'.total = s.total + 1 ∧
          (s'.unmatched = s.unmatched + if .notFound ∈ reply.tags then 1 else 0) ∧
          (s'.matched =
            s.matched + if .mocked ∈ reply.tags ∧ .notFound ∉ reply.tags then 1 else 0) ∧
          ∀ pick store left, asksForEnvironments a.request = false →
            dispatch s.routes a.request s.store a.draws = some ((.ok pick, store), left) →
              s'.matched = s.matched + 1 ∧ s'.unmatched = s.unmatched := by
  have hkinds := countP_kinds (exists_step_of_mem events hrun)
  rw [countP_isRequest_of_run hrun] at hkinds
  have htotal : s.total = 0 + .ofNat (transcript.countP (·.1.isRequest)) :=
    run_adds total _ (fun h => (step_adds h).total) events hrun
  have hmatched : s.matched = 0 + .ofNat (transcript.countP (·.2.isMatched)) :=
    run_adds matched _ (fun h => (step_adds h).matched) events hrun
  have hunmatched : s.unmatched = 0 + .ofNat (transcript.countP (·.2.isUnmatched)) :=
    run_adds unmatched _ (fun h => (step_adds h).unmatched) events hrun
  rw [countP_isRequest_of_run hrun] at htotal
  refine ⟨?_, ?_, fun a reply s' hstep => ⟨?_, ?_, ?_, fun pick store left => step_of_pick hstep⟩⟩
  · rw [htotal, UInt64.zero_add, UInt64.toNat_ofNat_of_lt' hfew]
  · rw [htotal, hmatched, hunmatched]
    simp only [UInt64.zero_add]
    rw [UInt64.toNat_ofNat_of_lt' hfew, UInt64.toNat_ofNat_of_lt' (by omega),
      UInt64.toNat_ofNat_of_lt' (by omega)]
    exact hkinds
  · exact (step_adds hstep).total
  · simpa only [Reply.isUnmatched, decide_eq_true_eq] using (step_adds hstep).unmatched
  · simpa only [Reply.isMatched, decide_eq_true_eq] using (step_adds hstep).matched

/-- Routes with a response of status 404, with one that cannot be made and with one that no request
passes. -/
def awkward : Configuration where
  environments :=
    [{ routes :=
        [{ urlTemplate := "/gone"
           methods := .ofRequest "GET"
           responses := [{ statusCode := 404, body := "gone" }] },
         { urlTemplate := "/broken"
           methods := .ofRequest "GET"
           responses := [{ body := "\x7b\x7bmissing", strictTemplateErrors := true }] },
         { urlTemplate := "/guarded"
           methods := .ofRequest "GET"
           responses := [{ body := "never", rules := [.aggregate .or []] }] }] }]

/-- Each of the routes, a path that no route has, an update and the environments. -/
def rounds : List Event :=
  [.request (visit "/gone"), .request (visit "/broken"), .request (visit "/guarded"),
    .request (visit "/nowhere"), .update ambiguous, .request (visit environmentsPath)]

theorem awkward_counts :
    (rounds.countP Event.isRequest < UInt64.size) ∧
      ∃ transcript s, (ofConfig awkward).run rounds = some (transcript, s) ∧
        s.total = 5 ∧ s.matched = 2 ∧ s.unmatched = 2 ∧
        s.total.toNat = rounds.countP Event.isRequest ∧
        s.total.toNat = s.matched.toNat + s.unmatched.toNat +
          transcript.countP (fun x => decide (.system ∈ x.2.tags)) := by
  have hcounts : (((ofConfig awkward).run rounds).map fun x =>
      (x.2.total, x.2.matched, x.2.unmatched)) = some (5, 2, 2) := by
    decide +kernel
  obtain ⟨⟨transcript, s⟩, hrun, hs⟩ := Option.map_eq_some_iff.1 hcounts
  simp only [Prod.mk.injEq] at hs
  obtain ⟨htotal, hmatched, hunmatched⟩ := hs
  have hfew : rounds.countP Event.isRequest < UInt64.size := by decide
  obtain ⟨hnumber, hsum, -⟩ := counts_of_run hrun hfew
  exact ⟨hfew, transcript, s, hrun, htotal, hmatched, hunmatched, hnumber, hsum⟩

end Server

end StubServer
