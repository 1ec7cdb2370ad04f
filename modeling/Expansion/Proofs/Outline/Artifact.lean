import Expansion.Outline.Artifact
import Expansion.Proofs.Catalog.Wire
import Expansion.Proofs.Text.Entries

/-!
# Artifacts are read back

* **`Bodies`**: texts are kept in the order of their names, whatever order they are declared in
  (`Bodies.sorted_ofList`), a later text for a name counts (`Bodies.lookup_ofList`), and what is in
  order already stays as it is (`Bodies.ofList_of_sorted`).
* **`decodeText_toText`**: so the file of an artifact is read back as the artifact, if its texts are
  in order, which they are in every artifact that is read off lines (`ofTexts_sorted`).
-/

namespace Expansion.Outline

namespace Bodies

variable {bodies : Bodies} {name body : String} {declared : List (String × String)}

/-- Each name comes once, and they are in order. -/
abbrev Sorted (bodies : Bodies) : Prop := Entries.Sorted bodies

/-- The text for a name is renewed whatever it was. -/
theorem insert_eq_put (name body : String) (bodies : Bodies) :
    insert name body bodies = Entries.put name (fun _ => body) bodies := by
  induction bodies with
  | nil => rfl
  | cons first rest ih =>
      obtain ⟨other, old⟩ := first
      unfold insert Entries.put
      rw [ih]
      split
      · rename_i hsame
        rw [hsame]
      · rfl

theorem sorted_insert (h : Sorted bodies) : Sorted (insert name body bodies) := by
  rw [insert_eq_put]
  exact Entries.sorted_put h

/-! ## Several declarations -/

theorem sorted_foldl (h : Sorted bodies) (declared : List (String × String)) :
    Sorted (declared.foldl (fun bodies (name, body) => insert name body bodies) bodies) := by
  induction declared generalizing bodies with
  | nil => exact h
  | cons first rest ih => exact ih (sorted_insert h)

/-- Texts are kept in the order of their names. -/
theorem sorted_ofList (declared : List (String × String)) : Sorted (ofList declared) :=
  sorted_foldl List.Pairwise.nil declared

theorem foldl_of_sorted (h : Sorted (bodies ++ declared)) :
    declared.foldl (fun bodies (name, body) => insert name body bodies) bodies =
      bodies ++ declared := by
  induction declared generalizing bodies with
  | nil => exact (List.append_nil bodies).symm
  | cons first rest ih =>
      obtain ⟨name, body⟩ := first
      have hgreatest : ∀ entry ∈ bodies, entry.1 < name := fun entry hentry =>
        (List.pairwise_append.mp h).2.2 entry hentry (name, body) List.mem_cons_self
      rw [List.foldl_cons]
      dsimp only
      rw [insert_eq_put, Entries.put_of_greatest hgreatest]
      rw [← List.singleton_append, ← List.append_assoc] at h
      rw [ih h, List.append_assoc, List.singleton_append]

/-- Texts in order stay as they are. -/
theorem ofList_of_sorted (h : Sorted bodies) : ofList bodies = bodies := by
  have hsorted : Sorted ([] ++ bodies) := h
  exact foldl_of_sorted hsorted

end Bodies

namespace Artifact

open Json

variable {a : Artifact}

/-! ## Files -/

theorem fits_encode (a : Artifact) {room : Nat} : Fits (room + 8) a.encode := by
  have hstring : ∀ s, Fits (room + 6) (Json.string s) := fun _ => trivial
  refine ⟨a.catalog.fits_encode, ?_, fits_encodeList (fun _ => ?_) a.failures,
    fits_encodeList hstring a.sources, trivial⟩
  · show FitsMembers (room + 6) (a.bodies.map fun (name, body) => (name, .string body))
    induction a.bodies with
    | nil => exact trivial
    | cons first rest ih => exact ⟨trivial, ih⟩
  · exact ⟨trivial, trivial, trivial⟩

/-- The members of an artifact. -/
def slots (a : Artifact) : List Slot :=
  [.always "catalog" (· = a.catalog.encode),
    .always "bodies" (· = .object (a.bodies.map fun (name, body) => (name, .string body))),
    .always "failures" (· = encodeList (fun (f, t) => .array [.string f, .string t]) a.failures),
    .always "sources" (· = encodeList Json.string a.sources)]

/-- An artifact is read back if its texts are in order. -/
theorem decode_encode (h : a.bodies.Sorted) : Artifact.decode a.encode = .ok a := by
  have hcatalog := a.catalog.decode_encode
  have htext : ∀ s, asText (Json.string s) = .ok s := fun _ => rfl
  have hpair : ∀ pair : String × String, asPair asText asText
      ((fun (f, t) => .array [.string f, .string t]) pair) = .ok pair := fun _ => rfl
  have hbodies : asMembers asText
      (.object (a.bodies.map fun (name, body) => (name, .string body))) = .ok a.bodies :=
    decodeMembers_map htext a.bodies
  have hfailures : asList (asPair asText asText)
      (encodeList (fun (f, t) => .array [.string f, .string t]) a.failures) = .ok a.failures :=
    decode_encodeList hpair a.failures
  have hsources : asList asText (encodeList Json.string a.sources) = .ok a.sources :=
    decode_encodeList htext a.sources
  have hserves : List.Forall₂ Serves fields a.slots :=
    .cons (serves_required (decode_of_eq hcatalog)) (.cons (serves_required (decode_of_eq hbodies))
      (.cons (serves_required (decode_of_eq hfailures))
      (.cons (serves_required (decode_of_eq hsources)) .nil)))
  obtain ⟨members, hmembers, hgives⟩ : IsObject a.slots a.encode :=
    ⟨_, rfl, (Kept.give rfl (.give rfl (.give rfl (.give rfl .nil)))).gives⟩
  have hcheck := hgives.checkRecord hserves (by decide)
  have hcatalog := hgives.readField hserves (by decide) (.head _) (decode_of_eq hcatalog)
  have hbodies := hgives.readField hserves (by decide) (.tail _ (.head _)) (decode_of_eq hbodies)
  have hfailures := hgives.readField hserves (by decide) (.tail _ (.tail _ (.head _)))
    (decode_of_eq hfailures)
  have hsources := hgives.readField hserves (by decide) (.tail _ (.tail _ (.tail _ (.head _))))
    (decode_of_eq hsources)
  rw [hmembers]
  unfold decode
  simp only [hcheck, hcatalog, hbodies, hfailures, hsources, bind, Except.bind,
    Bodies.ofList_of_sorted h]

/-- **The file of an artifact is read back as the artifact.** -/
theorem decodeText_toText (h : a.bodies.Sorted) :
    decodeText Artifact.decode a.toText = .ok a := by
  have hread := decodeText_pretty Artifact.decode a.fits_encode
  rw [decode_encode h] at hread
  exact hread

theorem ofTexts_sorted (texts : List String) : (ofTexts texts).bodies.Sorted :=
  Bodies.sorted_ofList _

end Artifact

end Expansion.Outline
