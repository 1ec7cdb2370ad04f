import Expansion.Proofs.ResultCache.Callers

/-!
# One build for each class

What any number of callers do to a cache together, whatever the order of their steps.

* **The ledger** (`Accounted.ledger`): what the cache held for a class at first and the builder runs
  that have succeeded for it since are what the cache holds now, and the one result that is made and
  not yet in the cache.
* A lookup finds at most one result and nothing can be pending where one is found, so **a class has
  at most one successful builder run**, and none starts behind it (`one_build_per_class`).
* A failed builder leaves one more miss and no other trace, by the atomicity of a call.
-/

namespace Expansion.Callers

variable {ι α ε : Type}

/-- The results of the builders that have succeeded for a class, in order. -/
def successes (asks : ι → Configuration) (c : Configuration) (events : List (CallEvent ι α ε)) :
    List (Kept α) :=
  events.filterMap (CallEvent.success? asks c)

/-- The result for a class that is made and not in the cache yet. -/
def pending (asks : ι → Configuration) (s : Callers ι α ε) (c : Configuration) :
    Option (Kept α) :=
  s.holder.bind fun i => if (asks i).same c then (s.phase i).made? else none

/-- What the steps so far have come to. -/
structure Accounted (asks : ι → Configuration) (first : ResultCache α)
    (events : List (CallEvent ι α ε)) (s : Callers ι α ε) : Prop where
  exclusive : s.Exclusive
  /-- A builder only runs, and a result only waits, where nothing is found. -/
  vacant : ∀ i, (s.phase i).working = true → s.cache.get? (asks i) = none
  /-- Whoever was served a result finds it. -/
  served : ∀ i kept, (s.phase i).served? = some kept → s.cache.get? (asks i) = some kept
  ledger : ∀ c, (first.get? c).toList ++ successes asks c events =
    (s.cache.get? c).toList ++ (s.pending asks c).toList
  failed : ∀ i e, .fail i e ∈ events → (s.phase i).answer? = some (.error e)
  /-- A running builder has its number. -/
  numbered : ∀ i run, s.phase i = .building run → .start i run ∈ events
  /-- A result has the number of the run that made it. -/
  named : ∀ i kept, .succeed i kept ∈ events → .start i kept.run ∈ events
  /-- Numbers go up, and none is beyond the misses. -/
  rising : (events.filterMap CallEvent.run?).Pairwise (· < ·) ∧
    ∀ n ∈ events.filterMap CallEvent.run?, n ≤ s.cache.misses

variable {asks : ι → Configuration} {s t : Callers ι α ε} {first : ResultCache α}
variable {events : List (CallEvent ι α ε)} {event : CallEvent ι α ε} {i : ι}

theorem accounted_idle (first : ResultCache α) :
    Accounted asks first [] (idle first : Callers ι α ε) where
  exclusive := idle_exclusive first
  vacant := by simp [idle, CallPhase.working]
  served := by simp [idle, CallPhase.served?]
  ledger := by simp [idle, pending, successes]
  failed := by simp
  numbered := by simp [idle]
  named := by simp
  rising := by simp

/-! ## What is pending -/

theorem pending_of_holder (h : s.holder = some i) (c : Configuration) :
    s.pending asks c = if (asks i).same c then (s.phase i).made? else none := by
  simp [pending, h]

theorem pending_eq_none (h : ∀ i, s.holder = some i → (s.phase i).made? = none)
    (c : Configuration) : s.pending asks c = none := by
  cases hholder : s.holder with
  | none => simp [pending, hholder]
  | some i => rw [pending_of_holder hholder, h i hholder, ite_self]

/-- What is pending is what the caller that is inside has made, if it asks for the class. -/
theorem Exclusive.pending_eq {p : CallPhase α ε} (h : s.Exclusive) (hphase : s.phase i = p)
    (hin : p.inside = true) (c : Configuration) :
    s.pending asks c = if (asks i).same c then p.made? else none := by
  have hholder : s.holder = some i := (h i).mp (hphase ▸ hin)
  rw [pending_of_holder hholder, hphase]

/-- Nothing is pending while the holder is in a phase without a result of its own. -/
theorem Exclusive.pending_eq_none {p : CallPhase α ε} (h : s.Exclusive) (hphase : s.phase i = p)
    (hin : p.inside = true) (hmade : p.made? = none) (c : Configuration) :
    s.pending asks c = none := by
  rw [h.pending_eq hphase hin, hmade, ite_self]

/-! ## What the ledger says of a class -/

/-- Where a result is pending nothing is found. -/
theorem Accounted.get?_of_pending (h : Accounted asks first events s) {c : Configuration}
    {kept : Kept α} (hpending : s.pending asks c = some kept) : s.cache.get? c = none := by
  obtain ⟨i, hholder, hi⟩ := Option.bind_eq_some_iff.mp hpending
  by_cases hc : (asks i).same c = true
  · rw [if_pos hc] at hi
    rw [← ResultCache.get?_congr _ hc]
    refine h.vacant i ?_
    cases hphase : s.phase i <;> simp_all [CallPhase.made?, CallPhase.working]
  · rw [if_neg hc] at hi
    exact absurd hi (by simp)

/-- A class has at most one result: one that the cache held at first, or one that a builder made. -/
theorem Accounted.at_most_one (h : Accounted asks first events s) (c : Configuration) :
    ((first.get? c).toList ++ successes asks c events).length ≤ 1 := by
  rw [h.ledger c, List.length_append]
  cases hpending : s.pending asks c with
  | none => cases s.cache.get? c <;> simp
  | some kept => simp [h.get?_of_pending hpending]

/-- Whoever was answered with a result was answered with the one that its class has. -/
theorem Accounted.answered (h : Accounted asks first events s) {kept : Kept α}
    (hanswer : (s.phase i).answer? = some (.ok kept)) :
    (first.get? (asks i)).toList ++ successes asks (asks i) events = [kept] := by
  have hfound := h.served i kept (CallPhase.served?_of_answer? hanswer)
  have hpending : s.pending asks (asks i) = none := by
    cases hp : s.pending asks (asks i) with
    | none => rfl
    | some other =>
        rw [h.get?_of_pending hp] at hfound
        exact absurd hfound (by simp)
  rw [h.ledger, hfound, hpending]
  rfl

variable [DecidableEq ι]

/-! ## What one step keeps -/

/-- What is found stays found. -/
theorem Step.get?_mono {c : Configuration} {kept : Kept α} (hstep : Step asks s event t)
    (h : s.cache.get? c = some kept) : t.cache.get? c = some kept := by
  cases hstep with
  | insert _ => exact ResultCache.get?_insert_of_some h _ _
  | _ => exact h

/-- A settled answer stays. -/
theorem Step.answer?_mono {answer : Except ε (Kept α)} (hstep : Step asks s event t)
    (h : (s.phase i).answer? = some answer) : (t.phase i).answer? = some answer := by
  by_cases hi : i = event.caller
  · subst hi
    cases hstep <;> simp_all [CallEvent.caller, CallPhase.answer?]
  · rw [hstep.phase_of_ne hi, h]

theorem Accounted.vacant_step (h : Accounted asks first events s) (hstep : Step asks s event t)
    (hi : (t.phase i).working = true) : t.cache.get? (asks i) = none := by
  by_cases hcaller : i = event.caller
  · subst hcaller
    cases hstep with
    | start _ hnone => exact hnone
    | @succeed k _ _ hphase => exact h.vacant k (by rw [hphase]; rfl)
    | _ => simp [CallEvent.caller, putWith, CallPhase.working] at hi
  · rw [hstep.phase_of_ne hcaller] at hi
    have hmine := h.exclusive.caller_eq (CallPhase.inside_of_working hi) hstep
    exact absurd hmine.symm hcaller

theorem Accounted.served_step (h : Accounted asks first events s) (hstep : Step asks s event t)
    {kept : Kept α} (hi : (t.phase i).served? = some kept) :
    t.cache.get? (asks i) = some kept := by
  by_cases hcaller : i = event.caller
  · subst hcaller
    cases hstep with
    | hit _ hfound =>
        simp [CallEvent.caller, putWith, CallPhase.served?] at hi
        subst hi
        exact hfound
    | @insert k other hphase =>
        simp [CallEvent.caller, putWith, CallPhase.served?] at hi
        subst hi
        exact ResultCache.get?_insert_self _ _ _ (h.vacant k (by rw [hphase]; rfl))
    | @note k other hphase =>
        simp [CallEvent.caller, putWith, CallPhase.served?] at hi
        subst hi
        exact h.served k other (by rw [hphase]; rfl)
    | @unlock k answer hphase =>
        simp only [CallEvent.caller, put_phase_self] at hi
        refine h.served k kept ?_
        rw [hphase]
        cases answer <;> exact hi
    | _ => simp [CallEvent.caller, putWith, CallPhase.served?] at hi
  · rw [hstep.phase_of_ne hcaller] at hi
    exact hstep.get?_mono (h.served i kept hi)

theorem Accounted.failed_step (h : Accounted asks first events s) (hstep : Step asks s event t)
    {e : ε} (hfail : .fail i e ∈ events ++ [event]) :
    (t.phase i).answer? = some (.error e) := by
  rcases List.mem_append.mp hfail with hold | hnew
  · exact hstep.answer?_mono (h.failed i e hold)
  · rw [List.mem_singleton] at hnew
    subst hnew
    cases hstep with
    | fail _ => rw [put_phase_self]; rfl

theorem Accounted.numbered_step (h : Accounted asks first events s) (hstep : Step asks s event t)
    {run : Nat} (hi : t.phase i = .building run) : .start i run ∈ events ++ [event] := by
  by_cases hcaller : i = event.caller
  · subst hcaller
    cases hstep with
    | start _ _ =>
        simp [CallEvent.caller, putWith] at hi
        subst hi
        simp [CallEvent.caller]
    | _ => simp [CallEvent.caller, putWith] at hi
  · rw [hstep.phase_of_ne hcaller] at hi
    exact List.mem_append_left _ (h.numbered i run hi)

theorem Accounted.named_step (h : Accounted asks first events s) (hstep : Step asks s event t)
    {kept : Kept α} (hsucceed : .succeed i kept ∈ events ++ [event]) :
    .start i kept.run ∈ events ++ [event] := by
  refine List.mem_append_left _ ?_
  rcases List.mem_append.mp hsucceed with hold | hnew
  · exact h.named i kept hold
  · rw [List.mem_singleton] at hnew
    subst hnew
    cases hstep with
    | succeed hphase => exact h.numbered i _ hphase

theorem Accounted.rising_step (h : Accounted asks first events s) (hstep : Step asks s event t) :
    ((events ++ [event]).filterMap CallEvent.run?).Pairwise (· < ·) ∧
      ∀ n ∈ (events ++ [event]).filterMap CallEvent.run?, n ≤ t.cache.misses := by
  obtain ⟨hup, hbound⟩ := h.rising
  rw [List.filterMap_append]
  cases hstep with
  | start _ _ =>
      have hmisses : s.cache.miss.misses = s.cache.misses + 1 := rfl
      refine ⟨?_, ?_⟩
      · rw [List.pairwise_append]
        refine ⟨hup, by simp [CallEvent.run?], ?_⟩
        intro n hn k hk
        simp [CallEvent.run?] at hk
        have := hbound n hn
        omega
      · intro n hn
        rcases List.mem_append.mp hn with hold | hnew
        · have := hbound n hold
          show n ≤ s.cache.miss.misses
          omega
        · simp [CallEvent.run?] at hnew
          show n ≤ s.cache.miss.misses
          omega
  | _ =>
      simp only [List.filterMap_cons, List.filterMap_nil, CallEvent.run?, List.append_nil]
      exact ⟨hup, hbound⟩

/-- The ledger is kept: a result enters it when its builder succeeds, and the write to the entries
only moves it from the pending side to the cache. -/
theorem Accounted.ledger_step (h : Accounted asks first events s) (hstep : Step asks s event t)
    (c : Configuration) :
    (first.get? c).toList ++ successes asks c (events ++ [event]) =
      (t.cache.get? c).toList ++ (t.pending asks c).toList := by
  have hnext : t.Exclusive := h.exclusive.step hstep
  have hold := h.ledger c
  simp only [successes, List.filterMap_append, ← List.append_assoc] at hold ⊢
  rw [hold]
  -- Outside of `succeed` and `insert` nothing is pending before or after.
  have quiet : event.success? asks c = none → t.cache.get? c = s.cache.get? c →
      s.pending asks c = none → t.pending asks c = none →
      (s.cache.get? c).toList ++ (s.pending asks c).toList ++
          List.filterMap (CallEvent.success? asks c) [event] =
        (t.cache.get? c).toList ++ (t.pending asks c).toList := by
    intro hevent hget hs ht
    rw [hget, hs, ht]
    simp [hevent]
  cases hstep with
  | @lock i hfree hout =>
      have hphase : (s.put i .entered).phase i = .entered := put_phase_self s i _
      refine quiet rfl rfl ?_ (hnext.pending_eq_none hphase rfl rfl c)
      exact Callers.pending_eq_none (by simp [hfree]) c
  | @hit i kept hphase _ =>
      have hfound : (s.put i (.found kept)).phase i = .found kept := put_phase_self s i _
      exact quiet rfl rfl (h.exclusive.pending_eq_none hphase rfl rfl c)
        (hnext.pending_eq_none hfound rfl rfl c)
  | @start i hphase _ =>
      have hbuilding := put_phase_self s i (.building s.cache.miss.misses)
      exact quiet rfl rfl (h.exclusive.pending_eq_none hphase rfl rfl c)
        (hnext.pending_eq_none hbuilding rfl rfl c)
  | @succeed i run result hphase =>
      have hbuilt := put_phase_self s i (.built ⟨run, result⟩)
      rw [h.exclusive.pending_eq_none hphase rfl rfl, hnext.pending_eq hbuilt rfl]
      by_cases hc : (asks i).same c = true <;>
        simp [CallEvent.success?, CallPhase.made?, hc, put]
  | @fail i run e hphase =>
      have hleaving := put_phase_self s i (.leaving (.error e))
      exact quiet rfl rfl (h.exclusive.pending_eq_none hphase rfl rfl c)
        (hnext.pending_eq_none hleaving rfl rfl c)
  | @insert i kept hphase =>
      have hnone : s.cache.get? (asks i) = none := h.vacant i (by rw [hphase]; rfl)
      have hfound := put_phase_self s i (.found kept)
      rw [h.exclusive.pending_eq hphase rfl, hnext.pending_eq_none hfound rfl rfl]
      simp only [putWith, ResultCache.get?_insert, CallPhase.made?, List.filterMap_cons,
        List.filterMap_nil, CallEvent.success?, List.append_nil, Option.toList_none]
      by_cases hc : (asks i).same c = true
      · rw [← ResultCache.get?_congr _ hc, hnone]
        simp [hc]
      · simp [hc]
  | @note i kept hphase =>
      have hleaving := put_phase_self s i (.leaving (.ok kept))
      exact quiet rfl rfl (h.exclusive.pending_eq_none hphase rfl rfl c)
        (hnext.pending_eq_none hleaving rfl rfl c)
  | @unlock i answer hphase =>
      refine quiet rfl rfl (h.exclusive.pending_eq_none hphase rfl rfl c) ?_
      exact Callers.pending_eq_none (by simp) c

theorem Accounted.step (h : Accounted asks first events s) (hstep : Step asks s event t) :
    Accounted asks first (events ++ [event]) t where
  exclusive := h.exclusive.step hstep
  vacant _ hi := h.vacant_step hstep hi
  served _ _ hi := h.served_step hstep hi
  ledger := h.ledger_step hstep
  failed _ _ hi := h.failed_step hstep hi
  numbered _ _ hi := h.numbered_step hstep hi
  named _ _ hi := h.named_step hstep hi
  rising := h.rising_step hstep

/-- The account of every run. -/
theorem Run.accounted (hrun : Run asks (idle first) events s) : Accounted asks first events s := by
  induction hrun with
  | refl => exact accounted_idle first
  | snoc _ hstep ih => exact ih.step hstep

/-! ## What callers get -/

/-- A builder starts and ends only while its class has no result. -/
theorem Accounted.no_result_of_builder (h : Accounted asks first events s)
    (hstep : Step asks s event t) (hi : event.builder? = some i) :
    (first.get? (asks i)).toList ++ successes asks (asks i) events = [] := by
  have key : ∀ {p : CallPhase α ε}, s.phase i = p → p.inside = true → p.made? = none →
      s.cache.get? (asks i) = none →
      (first.get? (asks i)).toList ++ successes asks (asks i) events = [] := by
    intro p hphase hin hmade hnone
    rw [h.ledger, hnone, h.exclusive.pending_eq_none hphase hin hmade]
    rfl
  cases hstep with
  | @start k hphase hnone =>
      obtain rfl : k = i := Option.some.inj hi
      exact key hphase rfl rfl hnone
  | @succeed k run result hphase =>
      obtain rfl : k = i := Option.some.inj hi
      exact key hphase rfl rfl (h.vacant k (by rw [hphase]; rfl))
  | @fail k run e hphase =>
      obtain rfl : k = i := Option.some.inj hi
      exact key hphase rfl rfl (h.vacant k (by rw [hphase]; rfl))
  | _ => exact absurd hi (by simp [CallEvent.builder?])

/-- Behind a successful builder run no builder of its class starts or ends. -/
theorem Run.no_builder_after_success {before after : List (CallEvent ι α ε)} {kept : Kept α}
    (hrun : Run asks (idle first) (before ++ .succeed i kept :: after) s) :
    ∀ event ∈ after, ∀ j, event.builder? = some j → (asks j).same (asks i) = false := by
  intro event hevent j hj
  obtain ⟨between, rest, rfl⟩ := List.append_of_mem hevent
  have hcut : Run asks (idle first)
      ((before ++ .succeed i kept :: between) ++ event :: rest) s := by
    simpa using hrun
  obtain ⟨u, hu, hrest⟩ := hcut.split
  obtain ⟨v, hstep, -⟩ := hrest.first
  have hempty := hu.accounted.no_result_of_builder hstep hj
  by_contra hsame
  have hclass : (asks i).same (asks j) = true :=
    Configuration.same_symm (Bool.not_eq_false _ ▸ hsame)
  simp [successes, CallEvent.success?, hclass] at hempty

/-- A call whose builder failed has added one miss to the cache it met, and nothing else. -/
theorem Run.section_of_fail {before inside : List (CallEvent ι α ε)} {s₁ s₂ : Callers ι α ε}
    {e : ε} (hbefore : Run asks (idle first) before s₁)
    (hcall : Run asks s₁ (.lock i :: inside ++ [.unlock i]) s₂) (hfail : .fail i e ∈ inside) :
    s₂.phase i = .returned (.error e) ∧ s₂.cache = s₁.cache.miss := by
  have hfailed : (s₂.phase i).answer? = some (.error e) :=
    (hbefore.append hcall).accounted.failed i e (by simp [hfail])
  obtain ⟨built, hphase, hcache⟩ := hcall.section_eq_getOrBuild hbefore.accounted.exclusive
  rw [hphase] at hfailed
  have hanswer := Option.some.inj hfailed
  cases hget : s₁.cache.get? (asks i) with
  | some kept =>
      rw [getOrBuild_of_some hget] at hanswer
      exact absurd hanswer (by simp)
  | none =>
      cases built with
      | ok result =>
          rw [getOrBuild_of_ok hget] at hanswer
          exact absurd hanswer (by simp)
      | error d =>
          rw [getOrBuild_of_error hget] at hanswer hcache hphase
          injection hanswer with hd
          subst hd
          exact ⟨hphase, hcache⟩

/-- A caller that has the lock while its class has no result runs its builder: that step is open to
it, and there is no other. -/
theorem Accounted.builds_of_no_result (h : Accounted asks first events s)
    (hentered : s.phase i = .entered)
    (hempty : (first.get? (asks i)).toList ++ successes asks (asks i) events = []) :
    (∃ run t, Step asks s (.start i run) t) ∧
      ∀ event t, Step asks s event t → ∃ run, event = .start i run := by
  have hin : (s.phase i).inside = true := by rw [hentered]; rfl
  have hnone : s.cache.get? (asks i) = none := by
    rw [h.ledger] at hempty
    cases hget : s.cache.get? (asks i) with
    | none => rfl
    | some kept =>
        rw [hget] at hempty
        exact absurd hempty (by simp)
  refine ⟨⟨_, _, .start hentered hnone⟩, ?_⟩
  intro event t hstep
  have hmine := h.exclusive.caller_eq hin hstep
  cases hstep <;> simp_all [CallEvent.caller]

/-- **One build for each class.** Any number of callers, in any interleaving that the lock allows,
with builders that succeed or fail as they like:

* a class has at most one result, counting one that the cache held at first, and so at most one
  builder run that succeeds;
* behind that success no builder of the class starts or ends;
* every caller that is answered with a result is answered with that one, and its number is that of
  the run that made it, which no other run has;
* a caller whose builder fails is answered with the builder's own error, and its whole call leaves
  the cache as it was but for the counter of misses;
* a caller that looks up while its class has no result, whatever has failed before, runs its
  builder;
* every call as a whole is one use of `getOrBuild`. -/
theorem one_build_per_class (hrun : Run asks (idle first) events s) :
    (∀ c, ((first.get? c).toList ++ successes asks c events).length ≤ 1) ∧
    (∀ before i kept after, events = before ++ .succeed i kept :: after →
      ∀ event ∈ after, ∀ j, event.builder? = some j → (asks j).same (asks i) = false) ∧
    ((∀ i kept, (s.phase i).answer? = some (.ok kept) →
        (first.get? (asks i)).toList ++ successes asks (asks i) events = [kept]) ∧
      (∀ i kept, .succeed i kept ∈ events → .start i kept.run ∈ events) ∧
      (events.filterMap CallEvent.run?).Pairwise (· < ·)) ∧
    ((∀ i e, .fail i e ∈ events → (s.phase i).answer? = some (.error e)) ∧
      ∀ before i inside after s₁ s₂ e,
        events = before ++ (.lock i :: inside ++ [.unlock i]) ++ after →
        Run asks (idle first) before s₁ → Run asks s₁ (.lock i :: inside ++ [.unlock i]) s₂ →
        .fail i e ∈ inside →
        s₂.phase i = .returned (.error e) ∧ s₂.cache = s₁.cache.miss) ∧
    (∀ i, s.phase i = .entered →
      (first.get? (asks i)).toList ++ successes asks (asks i) events = [] →
      (∃ run t, Step asks s (.start i run) t) ∧
        ∀ event t, Step asks s event t → ∃ run, event = .start i run) ∧
    (∀ before i inside after s₁ s₂,
      events = before ++ (.lock i :: inside ++ [.unlock i]) ++ after →
      Run asks (idle first) before s₁ → Run asks s₁ (.lock i :: inside ++ [.unlock i]) s₂ →
      ∃ built : Except ε α,
        s₂.phase i = .returned (s₁.cache.getOrBuild (m := Id) (asks i) built).1 ∧
        s₂.cache = (s₁.cache.getOrBuild (m := Id) (asks i) built).2) := by
  have haccount := hrun.accounted
  refine ⟨haccount.at_most_one, ?_, ⟨?_, haccount.named, haccount.rising.1⟩,
    ⟨haccount.failed, ?_⟩, ?_, ?_⟩
  · intro before i kept after hevents
    subst hevents
    exact hrun.no_builder_after_success
  · intro i kept hanswer
    exact haccount.answered hanswer
  · intro before i inside after s₁ s₂ e _ hbefore hcall hfail
    exact hbefore.section_of_fail hcall hfail
  · intro i hentered hempty
    exact haccount.builds_of_no_result hentered hempty
  · intro before i inside after s₁ s₂ _ hbefore hcall
    exact hcall.section_eq_getOrBuild hbefore.accounted.exclusive

/-- Three callers of one class, the last of which writes the path with a slash behind it. -/
def threeAsk (i : Nat) : Configuration where
  sources := .ofPaths [⟨if i = 2 then "a.src/" else "a.src"⟩]
  references := []
  flags := []
  mode := .embed
  output := ⟨""⟩

/-- The builder of the first caller fails and that of the second succeeds; the third caller needs
none. -/
def threeCalls : List (CallEvent Nat String String) :=
  [.lock 0, .start 0 1, .fail 0 "no", .unlock 0, .lock 1, .start 1 2, .succeed 1 ⟨2, "text"⟩,
    .insert 1, .note 1, .unlock 1, .lock 2, .hit 2 ⟨2, "text"⟩, .note 2, .unlock 2]

theorem one_build_of_three :
    ∃ s : Callers Nat String String, Run threeAsk (idle .empty) threeCalls s ∧
      (s.phase 0).answer? = some (.error "no") ∧
      ((ResultCache.empty : ResultCache String).get? (threeAsk 2)).toList ++
        successes threeAsk (threeAsk 2) threeCalls = [⟨2, "text"⟩] := by
  have hrun : ∃ s : Callers Nat String String, Run threeAsk (idle .empty) threeCalls s ∧
      (s.phase 2).answer? = some (.ok ⟨2, "text"⟩) := by
    refine ⟨_, .cons (.lock rfl rfl) <| .cons (.start rfl rfl) <| .cons (.fail rfl) <|
      .cons (.unlock rfl) <| .cons (.lock rfl rfl) <| .cons (.start rfl rfl) <|
      .cons (.succeed rfl) <| .cons (.insert rfl) <| .cons (.note rfl) <| .cons (.unlock rfl) <|
      .cons (.lock rfl rfl) <| .cons (.hit rfl rfl) <| .cons (.note rfl) <|
      .cons (.unlock rfl) <| .refl _, rfl⟩
  obtain ⟨s, hrun, hanswer⟩ := hrun
  have hone := one_build_per_class hrun
  exact ⟨s, hrun, hone.2.2.2.1.1 0 "no" (by simp [threeCalls]), hone.2.2.1.1 2 _ hanswer⟩

end Expansion.Callers
