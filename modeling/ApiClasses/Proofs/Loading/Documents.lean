import ApiClasses.Proofs.Loading.Faults
import ApiClasses.Proofs.Loading.Obedience

/-!
# Whole documents

Loading a document is loading its schemas and then its resources. Only schemas hold
references, so an error about a reference comes from the schemas
(`schemas_of_load_error`), and a document loads if both of them do (`load_iff`).
-/

namespace ApiClasses.Loading

open Json (Members)

theorem bind_eq_error {α β ε : Type} {m : Except ε α} {f : α → Except ε β} {error : ε}
    (h : (m >>= f) = .error error) : m = .error error ∨ ∃ a, m = .ok a ∧ f a = .error error := by
  cases m with
  | error _ => exact .inl (congrArg Except.error (Except.error.inj h))
  | ok a => exact .inr ⟨a, rfl, h⟩

theorem bind_eq_ok {α β ε : Type} {m : Except ε α} {f : α → Except ε β} {b : β}
    (h : (m >>= f) = .ok b) : ∃ a, m = .ok a ∧ f a = .ok b := by
  cases m with
  | error _ => cases h
  | ok a => exact ⟨a, rfl, h⟩

/-- What can be seen of a result comes from a result. -/
theorem exists_of_toOption {α β ε : Type} {m : Except ε α} {f : α → β} {b : β}
    (h : m.toOption.map f = some b) : ∃ a, m = .ok a ∧ f a = b := by
  cases m with
  | error _ => cases h
  | ok a => exact ⟨a, rfl, Option.some.inj h⟩

/-! ## Errors of resources -/

/-- The error is not about a reference. -/
def NoReference (error : LoadError) : Prop :=
  ∀ location text, error ≠ .invalidValue location "$ref" text

theorem noReference_of_field {location field value : String} (h : field ≠ "$ref") :
    NoReference (.invalidValue location field value) := by
  rintro _ _ heq
  obtain ⟨-, rfl, -⟩ := LoadError.invalidValue.inj heq
  exact h rfl

theorem ResourceFault.noReference {root : Json} {error : LoadError} (h : ResourceFault root error) :
    NoReference error := by
  cases h with
  | resources | resource | methods => exact noReference_of_field (by decide)
  | verb => exact nofun

/-! ## Documents -/

variable {text : String} {root : Json}

/-- What loads has been read. -/
theorem exists_read_of_load {doc : Document} (h : Document.load text = .ok doc) :
    ∃ root, Json.read text = .ok root := by
  rw [Document.load] at h
  split at h
  · next root hread => exact ⟨root, hread⟩
  · cases h

/-- A document that loads has loaded its schemas. -/
theorem schemas_of_load {doc : Document} (hread : Json.read text = .ok root)
    (h : Document.load text = .ok doc) :
    ∃ progress, schemas root (root.get? "schemas") = .ok (doc.schemas, progress) ∧
      doc.arena = progress.arena := by
  rw [Document.load, hread] at h
  cases root with
  | object members =>
    obtain ⟨⟨named, progress⟩, hschemas, h⟩ := bind_eq_ok h
    obtain ⟨resources, -, h⟩ := bind_eq_ok h
    obtain rfl := Except.ok.inj h
    exact ⟨progress, hschemas, rfl⟩
  | null | bool _ | number _ | string _ | array _ => cases h

/-- A document that loads has loaded its resources. -/
theorem topResources_of_load {doc : Document} (hread : Json.read text = .ok root)
    (h : Document.load text = .ok doc) :
    topResources (root.get? "resources") = .ok doc.resources := by
  rw [Document.load, hread] at h
  cases root with
  | object members =>
    obtain ⟨loaded, -, h⟩ := bind_eq_ok h
    obtain ⟨resources, hresources, h⟩ := bind_eq_ok h
    obtain rfl := Except.ok.inj h
    exact hresources
  | null | bool _ | number _ | string _ | array _ => cases h

/-- A document loads exactly if it is an object and its schemas and resources load. -/
theorem load_iff (hread : Json.read text = .ok root) :
    (∃ doc, Document.load text = .ok doc) ↔
      (∃ members, root = .object members) ∧
      (∃ resources, topResources (root.get? "resources") = .ok resources) ∧
      ∃ loaded, schemas root (root.get? "schemas") = .ok loaded := by
  rw [Document.load, hread]
  cases root with
  | object members =>
    constructor
    · rintro ⟨doc, h⟩
      obtain ⟨loaded, hschemas, h⟩ := bind_eq_ok h
      obtain ⟨resources, hresources, -⟩ := bind_eq_ok h
      exact ⟨⟨members, rfl⟩, ⟨resources, hresources⟩, loaded, hschemas⟩
    · rintro ⟨-, ⟨resources, hresources⟩, ⟨named, progress⟩, hschemas⟩
      have hresources : topResources (Members.get? members "resources") = .ok resources :=
        hresources
      have hschemas : schemas (.object members) (Members.get? members "schemas") =
        .ok (named, progress) := hschemas
      dsimp only
      rw [document, hschemas, hresources]
      exact ⟨_, rfl⟩
  | null | bool _ | number _ | string _ | array _ =>
    constructor
    · rintro ⟨_, h⟩
      cases h
    · rintro ⟨⟨_, h⟩, -⟩
      cases h

/-- A document that loads has loaded the locations at the top level by the rules. -/
theorem loads_of_load {doc : Document} (hread : Json.read text = .ok root)
    (h : Document.load text = .ok doc) :
    ∃ ids progress, schemas root (root.get? "schemas") = .ok (doc.schemas, progress) ∧
      doc.arena = progress.arena ∧ doc.schemas = List.zip (topNames root) ids ∧
      Loads root [] {} (topLocations root) ids progress := by
  obtain ⟨progress, hschemas, harena⟩ := schemas_of_load hread h
  rcases schemas_follows (Json.read_uniqueKeys hread) (.of_ok hschemas) with
    ⟨ids, progress', hrun, hloads⟩ | ⟨error, hrun, -⟩
  · obtain ⟨hnamed, rfl⟩ := Prod.mk.inj (Except.ok.inj (hrun.symm.trans hschemas))
    exact ⟨ids, progress', hschemas, harena, hnamed.symm, hloads⟩
  · cases hrun.symm.trans hschemas

/-- A document is refused for what it is itself, for its schemas or for its resources. -/
theorem load_eq_error {error : LoadError} (hread : Json.read text = .ok root)
    (h : Document.load text = .error error) :
    (root.members? = none ∧ error = .invalidValue "" "document" root.typeName) ∨
      schemas root (root.get? "schemas") = .error error ∨
      topResources (root.get? "resources") = .error error := by
  rw [Document.load, hread] at h
  cases root with
  | object members =>
    rcases bind_eq_error h with hschemas | ⟨_, -, h⟩
    · exact .inr (.inl hschemas)
    · rcases bind_eq_error h with hresources | ⟨_, -, h⟩
      · exact .inr (.inr hresources)
      · cases h
  | null | bool _ | number _ | string _ | array _ =>
    exact .inl ⟨rfl, (Except.error.inj h).symm⟩

/-- The resources of a document are called differently on every level, or something among
them is at fault. -/
theorem topResources_outcome (hunique : root.UniqueKeys) :
    Outcome AllDiffer (ResourceFault root) (topResources (root.get? "resources")) := by
  rcases hvalue : root.get? "resources" with _ | value
  · exact .ok ⟨List.nodup_nil, List.forall_mem_nil _⟩
  · exact resources_outcome hunique value .top (resolve?_resourcesLocation hvalue)

/-- An error about a reference comes from the schemas. -/
theorem schemas_of_load_error {location reference : String} (hread : Json.read text = .ok root)
    (h : Document.load text = .error (.invalidValue location "$ref" reference)) :
    schemas root (root.get? "schemas") = .error (.invalidValue location "$ref" reference) := by
  rcases load_eq_error hread h with ⟨-, hdocument⟩ | hschemas | hresources
  · obtain ⟨-, hfield, -⟩ := LoadError.invalidValue.inj hdocument
    exact absurd hfield (by decide)
  · exact hschemas
  · have houtcome := topResources_outcome (Json.read_uniqueKeys hread)
    rw [hresources] at houtcome
    exact absurd rfl (houtcome.of_error.noReference location reference)

/-- An error of the schemas is an error of the document. -/
theorem load_of_schemas_error {error : LoadError} (hread : Json.read text = .ok root)
    (h : schemas root (root.get? "schemas") = .error error) :
    Document.load text = .error error := by
  rw [Document.load, hread]
  cases root with
  | object members =>
    have hmembers : schemas (.object members) (Members.get? members "schemas") = .error error := h
    dsimp only
    rw [document, hmembers]
    rfl
  | null | bool _ | number _ | string _ | array _ => cases h

end ApiClasses.Loading
