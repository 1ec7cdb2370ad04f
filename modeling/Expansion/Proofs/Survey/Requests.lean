import Expansion.Proofs.Survey.Contents

/-!
# Requests for templates

Whether an expander works for a type is a matter of what the type's attributes ask for, all of them
together.

* **One request is enough** (`serves_iff`): an expander works for a type if the type asks for the
  template, explicitly where the expander wants that.
* **`Attribute.Rearranged`** attributes ask for the same in another way, and **`Attribute.Grown`**
  ones ask for more. Neither says anything about the map that a survey makes of the requests; what
  they mean for the requests is proved (`Rearranged.asked_iff`, `Grown.asked`).
* **`serves_of_requests`**: so the same pairs run, or more of them. To want explicit requests only
  lets no new pair in.
-/

namespace Expansion

/-- Attributes that ask for the same: in another order, with the requests of one in another order or
made again, with two in the place of one, and with others between them that ask for nothing. -/
inductive Attribute.Rearranged : List Attribute → List Attribute → Prop
  | order {tags tags' : List Attribute} : tags.Perm tags' → Rearranged tags tags'
  | requests {requests requests' : List TemplateRequest} {tags : List Attribute} :
      requests.Perm requests' →
      Rearranged (.expandable requests :: tags) (.expandable requests' :: tags)
  | again {request : TemplateRequest} {requests : List TemplateRequest} {tags : List Attribute} :
      request ∈ requests →
      Rearranged (.expandable requests :: tags) (.expandable (request :: requests) :: tags)
  | split {first second : List TemplateRequest} {tags : List Attribute} :
      Rearranged (.expandable (first ++ second) :: tags)
        (.expandable first :: .expandable second :: tags)
  | other {tag : Attribute} {tags : List Attribute} : tag.isExpandable = false →
      Rearranged tags (tag :: tags)
  | symm {tags tags' : List Attribute} : Rearranged tags tags' → Rearranged tags' tags
  | trans {tags tags' tags'' : List Attribute} : Rearranged tags tags' →
      Rearranged tags' tags'' → Rearranged tags tags''

/-- Attributes that ask for more: with one more of them, with one more request in one of them, or
with a request made explicit. With `rearranged` that may be at any place. -/
inductive Attribute.Grown : List Attribute → List Attribute → Prop
  | tag {requests : List TemplateRequest} {tags : List Attribute} :
      Grown tags (.expandable requests :: tags)
  | request {request : TemplateRequest} {requests : List TemplateRequest} {tags : List Attribute} :
      Grown (.expandable requests :: tags) (.expandable (request :: requests) :: tags)
  | explicit {name : String} {requests : List TemplateRequest} {tags : List Attribute} :
      Grown (.expandable (⟨name, false⟩ :: requests) :: tags)
        (.expandable (⟨name, true⟩ :: requests) :: tags)
  | rearranged {tags tags' : List Attribute} : Rearranged tags tags' → Grown tags tags'
  | trans {tags tags' tags'' : List Attribute} : Grown tags tags' → Grown tags' tags'' →
      Grown tags tags''

/-- Whether a request is one that the expander works for. -/
def Expander.Wants {σ : Type} (e : Expander σ) (request : TemplateRequest) : Prop :=
  request.name = e.template ∧ (e.explicitUse = true → request.explicit = true)

/-- Whether a survey has the type and the expander applies to it. -/
def Survey.Serves {σ : Type} (s : Survey σ) (e : Expander σ) (info : TypeInfo) : Prop :=
  ∃ t ∈ s.types, t.info = info ∧ e.appliesTo t = true

/-! ## What attributes ask for -/

namespace Attribute

variable {tags tags' : List Attribute} {request : TemplateRequest}

/-- Rearranged attributes ask for the same. -/
theorem Rearranged.asked_iff (h : Rearranged tags tags') (request : TemplateRequest) :
    Asked tags request ↔ Asked tags' request := by
  induction h with
  | order hperm => simp only [Asked, hperm.mem_iff]
  | requests hperm => rw [asked_expandable, asked_expandable, hperm.mem_iff]
  | again hmem =>
      rw [asked_expandable, asked_expandable, List.mem_cons]
      constructor
      · rintro (hold | hlater)
        · exact .inl (.inr hold)
        · exact .inr hlater
      · rintro ((rfl | hold) | hlater)
        · exact .inl hmem
        · exact .inl hold
        · exact .inr hlater
  | split => simp [or_assoc]
  | other htag => rw [asked_other htag]
  | symm _ ih => exact ih.symm
  | trans _ _ ih ih' => exact ih.trans ih'

/-- Attributes that have grown ask for every template that they asked for before, and explicitly
where they did so. -/
theorem Grown.asked (h : Grown tags tags') (hasked : Asked tags request) :
    ∃ request', Asked tags' request' ∧ request'.name = request.name ∧
      (request.explicit = true → request'.explicit = true) := by
  induction h generalizing request with
  | tag => exact ⟨request, by simp [hasked], rfl, id⟩
  | request =>
      rw [asked_expandable] at hasked
      refine ⟨request, ?_, rfl, id⟩
      rw [asked_expandable, List.mem_cons, or_assoc]
      exact .inr hasked
  | explicit =>
      rw [asked_expandable, List.mem_cons] at hasked
      rcases hasked with (rfl | hold) | hlater
      · -- This is the request that has been made explicit.
        exact ⟨⟨_, true⟩, by simp, rfl, fun _ => rfl⟩
      · exact ⟨request, by simp [hold], rfl, id⟩
      · exact ⟨request, by simp [hlater], rfl, id⟩
  | rearranged hsame => exact ⟨request, (hsame.asked_iff request).mp hasked, rfl, id⟩
  | trans _ _ ih ih' =>
      obtain ⟨request', hasked', hname, hexplicit⟩ := ih hasked
      obtain ⟨request'', hasked'', hname', hexplicit'⟩ := ih' hasked'
      exact ⟨request'', hasked'', hname'.trans hname, hexplicit' ∘ hexplicit⟩

end Attribute

namespace Survey

variable {σ : Type} {e : Expander σ} {info info' : TypeInfo} {m n : CompiledModule σ}

/-! ## Which pairs run -/

theorem appliesTo_iff {t : ExpandableType} (h : expandable? info = some t) :
    e.appliesTo t = true ↔ ∃ request, info.Asks request ∧ e.Wants request := by
  unfold Expander.appliesTo Expander.Wants
  rw [Bool.and_eq_true, Bool.or_eq_true, accepts_iff h, requests_iff h]
  cases e.explicitUse with
  | false => simp
  | true =>
      constructor
      · rintro ⟨-, hnever | ⟨request, hasks, hname, hexplicit⟩⟩
        · cases hnever
        · exact ⟨request, hasks, hname, fun _ => hexplicit⟩
      · rintro ⟨request, hasks, hname, hexplicit⟩
        exact ⟨⟨request, hasks, hname⟩, .inr ⟨request, hasks, hname, hexplicit rfl⟩⟩

/-- An expander works for a type if one request of the type is enough for it. -/
theorem serves_iff (hm : info ∈ m.types) :
    (ofModule m).Serves e info ↔ ∃ request, info.Asks request ∧ e.Wants request := by
  constructor
  · rintro ⟨t, ht, rfl, happlies⟩
    obtain ⟨info', -, htake⟩ := mem_types_iff.mp ht
    rw [← info_of_expandable? htake] at htake
    exact (appliesTo_iff htake).mp happlies
  · rintro ⟨request, hasks, hwants⟩
    have htaken : (expandable? info).isSome = true := by
      obtain ⟨requests, htag, -⟩ := hasks
      rw [isSome_expandable?]
      exact List.any_eq_true.mpr ⟨_, htag, rfl⟩
    obtain ⟨t, ht⟩ := Option.isSome_iff_exists.mp htaken
    exact ⟨t, mem_types_iff.mpr ⟨info, hm, ht⟩, info_of_expandable? ht,
      (appliesTo_iff ht).mpr ⟨request, hasks, hwants⟩⟩

/-- **Requests combine as a set, and more of them do no harm.** A pair of an expander and a type
runs, or does not run, whatever the order of the type's attributes and of the requests in them, how
often a request is made, how the requests are shared out among the attributes, and what other
attributes there are. One that runs still does when the type asks for more, or asks explicitly. When
an expander comes to want explicit requests only, no pair runs that did not run before. -/
theorem serves_of_requests (e : Expander σ) (hm : info ∈ m.types) (hn : info' ∈ n.types) :
    (Attribute.Rearranged info.attributes info'.attributes →
      ((ofModule m).Serves e info ↔ (ofModule n).Serves e info')) ∧
    (Attribute.Grown info.attributes info'.attributes →
      (ofModule m).Serves e info → (ofModule n).Serves e info') ∧
    ((ofModule m).Serves { e with explicitUse := true } info → (ofModule m).Serves e info) := by
  refine ⟨?_, ?_, ?_⟩
  · intro hsame
    rw [serves_iff hm, serves_iff hn]
    exact exists_congr fun request => and_congr_left' (hsame.asked_iff request)
  · intro hmore
    rw [serves_iff hm, serves_iff hn]
    rintro ⟨request, hasks, hname, hexplicit⟩
    obtain ⟨request', hasks', hname', hexplicit'⟩ := hmore.asked hasks
    exact ⟨request', hasks', hname'.trans hname, hexplicit' ∘ hexplicit⟩
  · rw [serves_iff hm, serves_iff hm]
    rintro ⟨request, hasks, hname, hexplicit⟩
    exact ⟨request, hasks, hname, fun _ => hexplicit rfl⟩

/-! ## An ant that asks in three ways -/

/-- The menagerie's ant. -/
def ant : TypeInfo := ⟨"Ant", [.expandable [⟨"Name", false⟩], .expandable [⟨"Quiet", true⟩]]⟩

/-- It asks for the same in one attribute, and for one template twice. -/
def busyAnt : TypeInfo :=
  ⟨"Ant", [.other "small", .expandable [⟨"Quiet", true⟩, ⟨"Name", false⟩, ⟨"Quiet", true⟩]]⟩

/-- It asks for its name explicitly, too. -/
def eagerAnt : TypeInfo := ⟨"Ant", [.expandable [⟨"Name", true⟩, ⟨"Quiet", true⟩]]⟩

/-- An expander that works when it is asked for. -/
def hum : Expander Unit := ⟨"hum", "Quiet", true, fun _ => pure (.ok "")⟩

theorem rearranged_busyAnt : Attribute.Rearranged ant.attributes busyAnt.attributes :=
  .trans (.symm (@Attribute.Rearranged.split [⟨"Name", false⟩] [⟨"Quiet", true⟩] []))
    (.trans (.again (by simp)) (.other rfl))

theorem grown_eagerAnt : Attribute.Grown ant.attributes eagerAnt.attributes :=
  .trans .explicit
    (.rearranged (.symm (@Attribute.Rearranged.split [⟨"Name", true⟩] [⟨"Quiet", true⟩] [])))

/-- The expander works for the ant, in whichever way it asks. -/
theorem serves_ants : (ofModule menagerie).Serves hum ant ∧
    (ofModule { menagerie with types := [busyAnt] }).Serves hum busyAnt ∧
    (ofModule { menagerie with types := [eagerAnt] }).Serves hum eagerAnt := by
  have hant : ant ∈ menagerie.types := by decide
  have hbusy : busyAnt ∈ ({ menagerie with types := [busyAnt] } : CompiledModule Unit).types :=
    List.mem_singleton_self _
  have heager : eagerAnt ∈ ({ menagerie with types := [eagerAnt] } : CompiledModule Unit).types :=
    List.mem_singleton_self _
  have hserves : (ofModule menagerie).Serves hum ant :=
    (serves_iff hant).mpr ⟨⟨"Quiet", true⟩, ⟨[⟨"Quiet", true⟩], by decide, by decide⟩, rfl,
      fun _ => rfl⟩
  exact ⟨hserves, ((serves_of_requests hum hant hbusy).1 rearranged_busyAnt).mp hserves,
    (serves_of_requests hum hant heager).2.1 grown_eagerAnt hserves⟩

end Survey

end Expansion
