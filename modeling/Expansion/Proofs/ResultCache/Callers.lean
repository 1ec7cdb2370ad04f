import Expansion.Proofs.ResultCache.Lookup
import Mathlib.Logic.Function.Basic

/-!
# Callers that share a cache

The calls of `getOrBuild` by any number of callers that run at the same time, in steps as small as
the lock lets anyone see them: taking the lock, looking up, the start and the end of the builder,
the two writes to the cache, and giving the lock back.

* **The lock is one rule of one step**: `lock` asks that nobody holds it. That no two callers are
  between `lock` and `unlock` is proved (`Exclusive.run`), not assumed.
* A builder ends as it likes: `succeed` and `fail` carry what it made, and nothing constrains them.
* **A call is atomic after all**: from its `lock` to its `unlock` the steps come to one use of
  `getOrBuild` (`Run.section_eq_getOrBuild`).
-/

namespace Expansion

/-- How far a caller of `getOrBuild` has come. -/
inductive CallPhase (α ε : Type) where
  /-- It has not got the lock. -/
  | outside
  /-- It has the lock and has not looked yet. -/
  | entered
  /-- Nothing was found, and its builder runs. -/
  | building (run : Nat)
  /-- Its builder has made a result, which is not in the cache yet. -/
  | built (kept : Kept α)
  /-- A result is in the cache, and the latest request is not noted yet. -/
  | found (kept : Kept α)
  /-- It knows its answer and has the lock. -/
  | leaving (answer : Except ε (Kept α))
  /-- It has its answer and has given the lock back. -/
  | returned (answer : Except ε (Kept α))

/-- A cache with its lock and those who call it. -/
structure Callers (ι α ε : Type) where
  cache : ResultCache α
  holder : Option ι
  phase : ι → CallPhase α ε

/-- What a caller does next. -/
inductive CallEvent (ι α ε : Type) where
  | lock (i : ι)
  | hit (i : ι) (kept : Kept α)
  | start (i : ι) (run : Nat)
  | succeed (i : ι) (kept : Kept α)
  | fail (i : ι) (e : ε)
  | insert (i : ι)
  | note (i : ι)
  | unlock (i : ι)

namespace CallPhase

variable {α ε : Type}

/-- Whether the caller is between `lock` and `unlock`. -/
def inside : CallPhase α ε → Bool
  | outside | returned _ => false
  | _ => true

/-- Whether the caller found nothing and has put in nothing yet. -/
def working : CallPhase α ε → Bool
  | building _ | built _ => true
  | _ => false

/-- The result that is made and not in the cache yet. -/
def made? : CallPhase α ε → Option (Kept α)
  | built kept => some kept
  | _ => none

/-- The result of the cache that the caller was given, or will be. -/
def served? : CallPhase α ε → Option (Kept α)
  | found kept => some kept
  | leaving (.ok kept) => some kept
  | returned (.ok kept) => some kept
  | _ => none

/-- The answer of the call, once it is settled. -/
def answer? : CallPhase α ε → Option (Except ε (Kept α))
  | leaving answer => some answer
  | returned answer => some answer
  | _ => none

theorem inside_of_working {p : CallPhase α ε} (h : p.working = true) : p.inside = true := by
  cases p <;> simp_all [working, inside]

/-- An answer that is a result was served. -/
theorem served?_of_answer? {p : CallPhase α ε} {kept : Kept α} (h : p.answer? = some (.ok kept)) :
    p.served? = some kept := by
  cases p <;> simp_all [answer?, served?]

end CallPhase

namespace CallEvent

variable {ι α ε : Type}

/-- The caller whose builder starts or ends. -/
def builder? : CallEvent ι α ε → Option ι
  | start i _ => some i
  | succeed i _ => some i
  | fail i _ => some i
  | _ => none

/-- The number of a builder run that starts. -/
def run? : CallEvent ι α ε → Option Nat
  | start _ run => some run
  | _ => none

/-- The caller whose step it is. -/
def caller : CallEvent ι α ε → ι
  | lock i | hit i _ | start i _ | succeed i _ | fail i _ | insert i | note i | unlock i => i

/-- The result of a builder that succeeds for a class. -/
def success? (asks : ι → Configuration) (c : Configuration) : CallEvent ι α ε → Option (Kept α)
  | succeed i kept => if (asks i).same c then some kept else none
  | _ => none

end CallEvent

namespace Callers

variable {ι α ε : Type}

/-- A cache that nobody has called yet. -/
def idle (cache : ResultCache α) : Callers ι α ε := ⟨cache, none, fun _ => .outside⟩

/-- Exactly the holder of the lock is between `lock` and `unlock`. -/
def Exclusive (s : Callers ι α ε) : Prop := ∀ i, (s.phase i).inside = true ↔ s.holder = some i

theorem idle_exclusive (cache : ResultCache α) : (idle cache : Callers ι α ε).Exclusive := by
  intro i
  simp [idle, CallPhase.inside]

variable [DecidableEq ι]

/-- A caller moves on. -/
def put (s : Callers ι α ε) (i : ι) (p : CallPhase α ε) : Callers ι α ε :=
  { s with phase := Function.update s.phase i p }

/-- A caller moves on, and the cache changes. -/
def putWith (s : Callers ι α ε) (i : ι) (p : CallPhase α ε) (cache : ResultCache α) :
    Callers ι α ε :=
  { s.put i p with cache }

/-- One step of one caller; `asks` is what each caller asks for. -/
inductive Step (asks : ι → Configuration) :
    Callers ι α ε → CallEvent ι α ε → Callers ι α ε → Prop
  | lock {s i} : s.holder = none → s.phase i = .outside →
      Step asks s (.lock i) { s.put i .entered with holder := some i }
  | hit {s i kept} : s.phase i = .entered → s.cache.get? (asks i) = some kept →
      Step asks s (.hit i kept) (s.putWith i (.found kept) s.cache.countHit)
  | start {s i} : s.phase i = .entered → s.cache.get? (asks i) = none →
      Step asks s (.start i s.cache.miss.misses)
        (s.putWith i (.building s.cache.miss.misses) s.cache.miss)
  | succeed {s i run result} : s.phase i = .building run →
      Step asks s (.succeed i ⟨run, result⟩) (s.put i (.built ⟨run, result⟩))
  | fail {s i run e} : s.phase i = .building run →
      Step asks s (.fail i e) (s.put i (.leaving (.error e)))
  | insert {s i kept} : s.phase i = .built kept →
      Step asks s (.insert i) (s.putWith i (.found kept) (s.cache.insert (asks i) kept))
  | note {s i kept} : s.phase i = .found kept →
      Step asks s (.note i) (s.putWith i (.leaving (.ok kept)) (s.cache.note (asks i)))
  | unlock {s i answer} : s.phase i = .leaving answer →
      Step asks s (.unlock i) { s.put i (.returned answer) with holder := none }

/-- Steps of the callers in any order. -/
inductive Run (asks : ι → Configuration) :
    Callers ι α ε → List (CallEvent ι α ε) → Callers ι α ε → Prop
  | refl (s) : Run asks s [] s
  | snoc {s t u events event} : Run asks s events t → Step asks t event u →
      Run asks s (events ++ [event]) u

variable {asks : ι → Configuration} {s t u : Callers ι α ε} {i j : ι}

@[simp] theorem put_phase_self (s : Callers ι α ε) (i : ι) (p : CallPhase α ε) :
    (s.put i p).phase i = p := by
  unfold put
  exact Function.update_self i p s.phase

theorem put_phase_ne (s : Callers ι α ε) (p : CallPhase α ε) (h : j ≠ i) :
    (s.put i p).phase j = s.phase j := by
  unfold put
  exact Function.update_of_ne h p s.phase

/-! ## Runs -/

theorem Run.single {event : CallEvent ι α ε} (h : Step asks s event t) : Run asks s [event] t :=
  .snoc (.refl s) h

theorem Run.append {first second : List (CallEvent ι α ε)} (h₁ : Run asks s first t)
    (h₂ : Run asks t second u) : Run asks s (first ++ second) u := by
  induction h₂ with
  | refl => simpa using h₁
  | snoc _ hstep ih =>
      rw [← List.append_assoc]
      exact .snoc ih hstep

theorem Run.cons {event : CallEvent ι α ε} {events : List (CallEvent ι α ε)}
    (hstep : Step asks s event t) (hrun : Run asks t events u) : Run asks s (event :: events) u :=
  (Run.single hstep).append hrun

/-- A run can be cut anywhere. -/
theorem Run.split {first second : List (CallEvent ι α ε)} (h : Run asks s (first ++ second) u) :
    ∃ t, Run asks s first t ∧ Run asks t second u := by
  generalize hall : first ++ second = all at h
  induction h generalizing second with
  | refl =>
      obtain ⟨rfl, rfl⟩ := List.append_eq_nil_iff.mp hall
      exact ⟨_, .refl _, .refl _⟩
  | snoc hrun hstep ih =>
      rcases List.eq_nil_or_concat second with rfl | ⟨rest, last, rfl⟩
      · rw [List.append_nil] at hall
        subst hall
        exact ⟨_, .snoc hrun hstep, .refl _⟩
      · rw [List.concat_eq_append, ← List.append_assoc] at hall
        obtain ⟨hinit, hlast⟩ := List.append_inj' hall rfl
        obtain ⟨t, h₁, h₂⟩ := ih hinit
        injection hlast with hevent
        subst hevent
        rw [List.concat_eq_append]
        exact ⟨t, h₁, .snoc h₂ hstep⟩

theorem Run.eq_of_nil (h : Run asks s [] t) : s = t := by
  generalize hnil : [] = events at h
  cases h with
  | refl => rfl
  | snoc _ _ => exact absurd hnil (by simp)

/-- The first step of a run. -/
theorem Run.first {event : CallEvent ι α ε} {rest : List (CallEvent ι α ε)}
    (h : Run asks s (event :: rest) u) : ∃ t, Step asks s event t ∧ Run asks t rest u := by
  have hcut : Run asks s ([event] ++ rest) u := h
  obtain ⟨t, h₁, h₂⟩ := hcut.split
  generalize hone : [event] = one at h₁
  cases h₁ with
  | refl => exact absurd hone (by simp)
  | snoc hrun hstep =>
      rw [← List.nil_append [event]] at hone
      obtain ⟨hnil, hevent⟩ := List.append_inj' hone rfl
      injection hevent with hevent
      subst hevent
      rw [← hnil] at hrun
      rw [hrun.eq_of_nil]
      exact ⟨t, hstep, h₂⟩

/-! ## The lock -/

/-- The holder moves on inside. -/
theorem Exclusive.put {p : CallPhase α ε} (h : s.Exclusive) (hi : (s.phase i).inside = true)
    (hp : p.inside = true) : (s.put i p).Exclusive := by
  intro j
  by_cases hji : j = i
  · subst hji
    rw [put_phase_self]
    exact ⟨fun _ => (h j).mp hi, fun _ => hp⟩
  · rw [put_phase_ne s p hji]
    exact h j

theorem Exclusive.step {event : CallEvent ι α ε} (h : s.Exclusive) (hstep : Step asks s event t) :
    t.Exclusive := by
  cases hstep with
  | @lock i hfree hout =>
      intro j
      by_cases hji : j = i
      · subst hji
        simp [CallPhase.inside]
      · have hj := h j
        rw [hfree] at hj
        simp only [put_phase_ne s _ hji, Option.some.injEq, Ne.symm hji, iff_false]
        simpa using hj
  | hit hphase _ => exact h.put (by rw [hphase]; rfl) rfl
  | start hphase _ => exact h.put (by rw [hphase]; rfl) rfl
  | succeed hphase => exact h.put (by rw [hphase]; rfl) rfl
  | fail hphase => exact h.put (by rw [hphase]; rfl) rfl
  | insert hphase => exact h.put (by rw [hphase]; rfl) rfl
  | note hphase => exact h.put (by rw [hphase]; rfl) rfl
  | @unlock i answer hphase =>
      have hi : s.holder = some i := (h i).mp (by rw [hphase]; rfl)
      intro j
      by_cases hji : j = i
      · subst hji
        simp [CallPhase.inside]
      · have hj := h j
        rw [hi, Option.some.injEq] at hj
        simp only [put_phase_ne s _ hji, reduceCtorEq, iff_false]
        exact fun hin => hji (hj.mp hin).symm

/-- No two callers are ever between `lock` and `unlock`. -/
theorem Exclusive.run {events : List (CallEvent ι α ε)} (h : s.Exclusive)
    (hrun : Run asks s events t) : t.Exclusive := by
  induction hrun with
  | refl => exact h
  | snoc _ hstep ih => exact ih.step hstep

/-- A step of one caller leaves the phases of the others. -/
theorem Step.phase_of_ne {event : CallEvent ι α ε} (hstep : Step asks s event t)
    (h : j ≠ event.caller) : t.phase j = s.phase j := by
  cases hstep <;> exact put_phase_ne s _ h

/-- While a caller is between `lock` and `unlock`, every step is its own. -/
theorem Exclusive.caller_eq {event : CallEvent ι α ε} (h : s.Exclusive)
    (hi : (s.phase i).inside = true) (hstep : Step asks s event t) : event.caller = i := by
  have hholder : s.holder = some i := (h i).mp hi
  have alone : ∀ {j p}, s.phase j = p → p.inside = true → j = i := by
    intro j p hj hp
    have := (h j).mp (hj ▸ hp)
    rw [hholder] at this
    exact (Option.some.inj this).symm
  cases hstep with
  | lock hfree _ => rw [hholder] at hfree; exact absurd hfree (by simp)
  | hit hphase _ => exact alone hphase rfl
  | start hphase _ => exact alone hphase rfl
  | succeed hphase => exact alone hphase rfl
  | fail hphase => exact alone hphase rfl
  | insert hphase => exact alone hphase rfl
  | note hphase => exact alone hphase rfl
  | unlock hphase => exact alone hphase rfl

/-- A call that is over stays over. -/
theorem Step.returned {event : CallEvent ι α ε} {answer : Except ε (Kept α)}
    (hstep : Step asks s event t) (h : s.phase i = .returned answer) :
    t.phase i = .returned answer := by
  by_cases hi : i = event.caller
  · subst hi
    cases hstep <;> simp_all [CallEvent.caller]
  · rw [hstep.phase_of_ne hi, h]

/-! ## One call -/

/-- What a call has made of the cache that it met, by the phase that its caller is in. -/
def Progress (c : Configuration) (met now : ResultCache α) : CallPhase α ε → Prop
  | .outside => False
  | .entered => now = met
  | .building run => met.get? c = none ∧ run = met.miss.misses ∧ now = met.miss
  | .built kept => met.get? c = none ∧ kept.run = met.miss.misses ∧ now = met.miss
  | .found kept =>
      (met.get? c = some kept ∧ now = met.countHit) ∨
      (met.get? c = none ∧ kept.run = met.miss.misses ∧ now = met.miss.insert c kept)
  | .leaving answer => ∃ built : Except ε α, met.getOrBuild (m := Id) c built = (answer, now)
  | .returned _ => True

theorem getOrBuild_of_some {cache : ResultCache α} {c : Configuration} {kept : Kept α}
    (h : cache.get? c = some kept) (built : Except ε α) :
    cache.getOrBuild (m := Id) c built = (.ok kept, cache.hit c) :=
  ResultCache.getOrBuild_of_some h _

theorem getOrBuild_of_ok {cache : ResultCache α} {c : Configuration}
    (h : cache.get? c = none) (result : α) :
    cache.getOrBuild (ε := ε) (m := Id) c (.ok result : Except ε α) =
      (.ok ⟨cache.miss.misses, result⟩, cache.miss.keep c result) :=
  ResultCache.getOrBuild_of_none h _

theorem getOrBuild_of_error {cache : ResultCache α} {c : Configuration}
    (h : cache.get? c = none) (e : ε) :
    cache.getOrBuild (ε := ε) (m := Id) c (.error e : Except ε α) = (.error e, cache.miss) :=
  ResultCache.getOrBuild_of_none h _

/-- A step of the caller itself carries its call on as `getOrBuild` would. -/
theorem Progress.own_step {met : ResultCache α} {event : CallEvent ι α ε}
    (hp : Progress (asks event.caller) met s.cache (s.phase event.caller))
    (hstep : Step asks s event t) :
    Progress (asks event.caller) met t.cache (t.phase event.caller) := by
  cases hstep with
  | @lock i _ hphase =>
      simp only [CallEvent.caller, hphase] at hp
      exact hp.elim
  | @hit i kept hphase hfound =>
      simp only [CallEvent.caller, hphase] at hp
      have hnow : s.cache = met := hp
      rw [hnow] at hfound
      simp only [CallEvent.caller, putWith, put_phase_self, hnow]
      exact .inl ⟨hfound, rfl⟩
  | @start i hphase hnone =>
      simp only [CallEvent.caller, hphase] at hp
      have hnow : s.cache = met := hp
      rw [hnow] at hnone
      simp only [CallEvent.caller, putWith, put_phase_self, hnow]
      exact ⟨hnone, rfl, rfl⟩
  | @succeed i run result hphase =>
      simp only [CallEvent.caller, hphase] at hp
      simp only [CallEvent.caller, put_phase_self]
      exact hp
  | @fail i run e hphase =>
      simp only [CallEvent.caller, hphase] at hp
      obtain ⟨hnone, -, hnow⟩ := hp
      simp only [CallEvent.caller, put_phase_self]
      refine ⟨.error e, ?_⟩
      rw [getOrBuild_of_error hnone]
      exact congrArg _ hnow.symm
  | @insert i kept hphase =>
      simp only [CallEvent.caller, hphase] at hp
      obtain ⟨hnone, hrun, hnow⟩ := hp
      simp only [CallEvent.caller, putWith, put_phase_self, hnow]
      exact .inr ⟨hnone, hrun, rfl⟩
  | @note i kept hphase =>
      simp only [CallEvent.caller, hphase] at hp
      simp only [CallEvent.caller, putWith, put_phase_self]
      rcases hp with ⟨hsome, hnow⟩ | ⟨hnone, hrun, hnow⟩
      · refine ⟨.ok kept.result, ?_⟩
        rw [getOrBuild_of_some hsome, hnow, ResultCache.hit_eq]
      · obtain ⟨run, result⟩ := kept
        have hnumber : run = met.miss.misses := hrun
        subst hnumber
        refine ⟨.ok result, ?_⟩
        rw [getOrBuild_of_ok hnone, hnow, ResultCache.keep_eq]
  | @unlock i answer hphase =>
      simp only [CallEvent.caller, put_phase_self]
      exact trivial

/-- A call that has begun and is not inside any more is over. -/
theorem Progress.returned {c : Configuration} {met now : ResultCache α} {p : CallPhase α ε}
    (hp : Progress c met now p) (hout : p.inside ≠ true) : ∃ answer, p = .returned answer := by
  cases p with
  | outside => exact hp.elim
  | returned answer => exact ⟨answer, rfl⟩
  | _ => exact absurd rfl hout

/-- Every step carries a call on as `getOrBuild` would: the holder's own steps by what they do, and
the steps of others because there are none while it holds the lock. -/
theorem Progress.step {met : ResultCache α} {event : CallEvent ι α ε} (hex : s.Exclusive)
    (hp : Progress (asks i) met s.cache (s.phase i)) (hstep : Step asks s event t) :
    Progress (asks i) met t.cache (t.phase i) := by
  by_cases hin : (s.phase i).inside = true
  · obtain rfl := hex.caller_eq hin hstep
    exact hp.own_step hstep
  · obtain ⟨answer, hanswer⟩ := hp.returned hin
    rw [hstep.returned hanswer]
    exact trivial

theorem Progress.run {met : ResultCache α} {events : List (CallEvent ι α ε)} (hex : s.Exclusive)
    (hp : Progress (asks i) met s.cache (s.phase i)) (hrun : Run asks s events t) :
    Progress (asks i) met t.cache (t.phase i) := by
  induction hrun with
  | refl => exact hp
  | snoc hrun hstep ih => exact ih.step (hex.run hrun) hstep

/-- **A call is atomic.** From its `lock` to its `unlock`, a caller does to the cache what
`getOrBuild` does in one go, and gets the answer that `getOrBuild` gives. -/
theorem Run.section_eq_getOrBuild {events : List (CallEvent ι α ε)} (hex : s.Exclusive)
    (hrun : Run asks s (.lock i :: events ++ [.unlock i]) u) :
    ∃ built : Except ε α, u.phase i = .returned (s.cache.getOrBuild (m := Id) (asks i) built).1 ∧
      u.cache = (s.cache.getOrBuild (m := Id) (asks i) built).2 := by
  obtain ⟨t, hcall, hend⟩ := hrun.split
  obtain ⟨a, hlock, hinside⟩ := hcall.first
  obtain ⟨b, hunlock, hnil⟩ := hend.first
  cases hnil.eq_of_nil
  have hentered : Progress (asks i) s.cache a.cache (a.phase i) := by
    cases hlock with
    | lock _ _ => simp only [put_phase_self]; exact rfl
  have hleaving := hentered.run (hex.step hlock) hinside
  cases hunlock with
  | unlock hphase =>
      rw [hphase] at hleaving
      obtain ⟨built, hbuilt⟩ := hleaving
      refine ⟨built, ?_, ?_⟩
      · simp only [put_phase_self, hbuilt]
      · rw [hbuilt]
        rfl

end Callers

end Expansion
