import StubServer.Proofs.History

/-!
# A new configuration is a restart

What a server says is settled by its configuration and by the counts under the keys of the routes
that requests are dispatched to: servers that agree on these say the same and go on agreeing
(`step_agree`). Neither what is kept of the templates nor the counts of answers play a part. A
configuration that is taken clears the counts under the keys, so that from then on the server is
like one that has just started, and one that is refused changes nothing (`configure_restarts`).
-/

namespace StubServer

theorem rel_map {α β γ δ : Type} {R : α → β → Prop} {Q : γ → δ → Prop} {f : α → γ} {g : β → δ}
    {x : Option α} {y : Option β} (h : Option.Rel R x y) (hfg : ∀ a b, R a b → Q (f a) (g b)) :
    Option.Rel Q (x.map f) (y.map g) := by
  cases h with
  | some hab => exact .some (hfg _ _ hab)
  | none => exact .none

namespace Server

/-! ## Two servers -/

/-- What two stores gave is the same, and where they counted alike they still do. -/
def SameSelection {α : Type} (s t : Store) (x y : (α × Store) × Draws) : Prop :=
  x.1.1 = y.1.1 ∧ x.2 = y.2 ∧ ∀ key, s.positions.get? key = t.positions.get? key →
    x.1.2.positions.get? key = y.1.2.positions.get? key

theorem select_agree {r : Config.Route} {s t : Store} (input : RuleInput) (draws : Draws)
    (hkey : r.strategy = .sequence → s.positions.get? r.key = t.positions.get? r.key) :
    Option.Rel (SameSelection s t) (Store.select r input s draws)
      (Store.select r input t draws) := by
  rcases hr : r.strategy with _ | _ | _
  · rw [Store.select_of_first hr, Store.select_of_first hr]
    exact .some ⟨rfl, rfl, fun _ h => h⟩
  · rw [Store.select_of_random hr, Store.select_of_random hr]
    cases Store.anyOf (r.candidates input) draws with
    | none => exact .none
    | some x => exact .some ⟨rfl, rfl, fun _ h => h⟩
  · rw [Store.select_of_sequence hr, Store.select_of_sequence hr]
    rcases r.candidates input with _ | ⟨c, cs⟩
    · exact .some ⟨rfl, rfl, fun _ h => h⟩
    · rw [Store.nextInSequence_cons, Store.nextInSequence_cons, hkey hr]
      refine .some ⟨rfl, rfl, fun key h => ?_⟩
      simp only [Bindings.get?_insert, h]

theorem dispatch_agree {routes : List Config.Route} {r : Http.Request} {s t : Store}
    (draws : Draws) (hs : Store.Coherent s.matchers) (ht : Store.Coherent t.matchers)
    (hkey : ∀ key, Counts routes r key → s.positions.get? key = t.positions.get? key) :
    Option.Rel (SameSelection s t) (dispatch routes r s draws) (dispatch routes r t draws) := by
  obtain ⟨kept, -, heq⟩ := dispatch_of_coherent hs routes r draws
  obtain ⟨kept', -, heq'⟩ := dispatch_of_coherent ht routes r draws
  rw [heq, heq']
  rcases htarget : target? routes r with _ | found
  · exact .some ⟨rfl, rfl, fun _ h => h⟩
  · refine rel_map (select_agree _ draws fun hr => ?_) fun x y hxy => ?_
    · exact hkey _ ⟨found, htarget, hr, rfl⟩
    · exact ⟨congrArg (pickOf _) hxy.1, hxy.2⟩

/-- The servers have the same configuration and count alike under the keys of a set. -/
structure Agree (K : String → Prop) (s t : Server) : Prop where
  config : s.config = t.config
  positions : ∀ key, K key → s.store.positions.get? key = t.store.positions.get? key
  left : s.Consistent
  right : t.Consistent

variable {K : String → Prop} {s t : Server}

theorem handle_agree (h : Agree K s t) (now : Time.Instant) (r : Http.Request) (draws : Draws)
    (hK : asksForEnvironments r = false → ∀ key, Counts s.config.activeRoutes r key → K key) :
    Option.Rel
      (fun x y => x.1.1 = y.1.1 ∧ x.2 = y.2 ∧
        ∀ key, K key → x.1.2.store.positions.get? key = y.1.2.store.positions.get? key)
      (handle now r s draws) (handle now r t draws) := by
  rw [handle_eq, handle_eq]
  split
  · exact .some ⟨by simp [environmentsResponse, h.config], rfl, h.positions⟩
  · rename_i henvironments
    have hroutes : s.routes = t.routes := by rw [h.left.routes, h.right.routes, h.config]
    rw [← hroutes, ← h.config]
    refine rel_map (dispatch_agree draws h.left.coherent h.right.coherent fun key hcounts => ?_)
      fun x y hxy => ?_
    · rw [h.left.routes] at hcounts
      exact h.positions key (hK (by simpa using henvironments) key hcounts)
    · obtain ⟨⟨picked, s'⟩, d⟩ := x
      obtain ⟨⟨picked', t'⟩, d'⟩ := y
      obtain ⟨rfl, rfl, hpositions⟩ := hxy
      refine ⟨rfl, rfl, fun key hk => ?_⟩
      have hkey := hpositions key (h.positions key hk)
      cases picked <;> exact hkey

/-- Servers that agree on the keys that an event may count under say the same and go on agreeing. -/
theorem step_agree (h : Agree K s t) (e : Event)
    (hK : ∀ a, e = .request a → asksForEnvironments a.request = false →
      ∀ key, Counts s.config.activeRoutes a.request key → K key) :
    Option.Rel (fun x y => x.1 = y.1 ∧ Agree K x.2 y.2) (s.step e) (t.step e) := by
  cases e with
  | request a =>
    have hrel := handle_agree h a.now a.request a.draws (hK a rfl)
    dsimp only [step]
    rcases hs : handle a.now a.request s a.draws with _ | ⟨⟨answer, s'⟩, d⟩ <;>
      rcases ht : handle a.now a.request t a.draws with _ | ⟨⟨answer', t'⟩, d'⟩ <;>
        rw [hs, ht] at hrel <;> cases hrel
    · exact .none
    · rename_i hxy
      obtain ⟨rfl, rfl, hpositions⟩ := hxy
      obtain ⟨hconfig, hleft, -⟩ := handle_eq_some h.left hs
      obtain ⟨hconfig', hright, -⟩ := handle_eq_some h.right ht
      exact .some ⟨rfl, hconfig.trans (h.config.trans hconfig'.symm), hpositions, hleft, hright⟩
  | update config =>
    dsimp only [step]
    rcases hvalid : config.validate with e | ⟨⟩
    · rw [configure_of_error hvalid, configure_of_error hvalid]
      exact .some ⟨rfl, h⟩
    · rw [configure_of_ok hvalid, configure_of_ok hvalid]
      exact .some ⟨rfl, rfl, fun _ _ => rfl, ⟨rfl, rfl, h.left.coherent.keep _⟩,
        ⟨rfl, rfl, h.right.coherent.keep _⟩⟩

/-- Servers that agree on all keys say the same to whatever comes. -/
theorem run_agree :
    ∀ (es : List Event) {s t : Server}, Agree (fun _ => True) s t →
      (s.run es).map Prod.fst = (t.run es).map Prod.fst
  | [], _, _, _ => rfl
  | e :: es, s, t, h => by
    have hrel := step_agree h e fun _ _ _ _ _ => trivial
    rw [map_fst_run_cons, map_fst_run_cons]
    rcases hs : s.step e with _ | ⟨reply, s'⟩ <;> rcases ht : t.step e with _ | ⟨reply', t'⟩ <;>
      rw [hs, ht] at hrel <;> cases hrel
    rename_i hxy
    obtain ⟨rfl, hagree⟩ := hxy
    simp only [Option.bind_some, run_agree es hagree]

/-! ## Updates -/

/-- A configuration that is not valid is refused and changes nothing of a server. From one that is
valid on the server says, to whatever comes, what a server says that starts with it. -/
theorem configure_restarts (hs : s.Reachable) (config : Configuration) :
    (∀ e, config.validate = .error e → (configure config).run s = .error e s) ∧
      (config.validate = .ok () → ∃ s', (configure config).run s = .ok () s' ∧
        ∀ events, (s'.run events).map Prod.fst = ((ofConfig config).run events).map Prod.fst) := by
  refine ⟨fun e he => configure_of_error he s, fun hvalid => ⟨_, configure_of_ok hvalid s, ?_⟩⟩
  intro events
  refine run_agree events ⟨rfl, fun _ _ => rfl, ?_, consistent_ofConfig config⟩
  exact ⟨rfl, rfl, hs.consistent.coherent.keep _⟩

/-- One route that goes through two responses. -/
def alternating : Configuration where
  environments :=
    [{ routes :=
        [{ urlTemplate := "/a"
           methods := .ofRequest "GET"
           responses := [{ body := "odd" }, { body := "even" }]
           strategy := .sequence }] }]

/-- A request for a path. -/
def visit (path : String) : Arrival := ⟨⟨0, 0, 0⟩, .ofTarget "GET" path, ⟨fun _ => 0, 0⟩⟩

/-- A server that read the template and counted one selection. -/
def warm : Server :=
  (((ofConfig alternating).run [.request (visit "/a")]).map Prod.snd).getD (ofConfig alternating)

/-- A configuration with two environments that are active. -/
def ambiguous : Configuration where
  environments := [{ isActive := true }, { isActive := true }]

theorem alternating_restarts_warm :
    warm.Reachable ∧ (warm.store.matchers.get? "/a").isSome = true ∧
      warm.store.positions.get? "GET /a" = some 1 ∧
      (configure ambiguous).run warm = .error (.tooManyActive 2) warm ∧
      ∃ s', (configure alternating).run warm = .ok () s' ∧
        ∀ events, (s'.run events).map Prod.fst =
          ((ofConfig alternating).run events).map Prod.fst := by
  have hrun : ((ofConfig alternating).run [.request (visit "/a")]).isSome = true := by
    decide +kernel
  obtain ⟨⟨transcript, s⟩, hs⟩ := Option.isSome_iff_exists.1 hrun
  have hwarm : warm.Reachable := by
    refine ⟨alternating, [.request (visit "/a")], transcript, ?_⟩
    rw [hs, warm, hs]
    rfl
  refine ⟨hwarm, by decide +kernel, by decide +kernel, ?_, ?_⟩
  · exact (configure_restarts hwarm ambiguous).1 _ (by decide +kernel)
  · exact (configure_restarts hwarm alternating).2 (by decide +kernel)

end Server

end StubServer
