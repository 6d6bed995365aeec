import EnvironmentOperator.Json.Edit
import EnvironmentOperator.Proofs.Environment

namespace EnvironmentOperator

namespace Json

inductive Apart : List Step → Json → Json → Prop where
  | text (t t' : String) : Apart [] (.str t) (.str t')
  | member {key : String} {place : List Step} {m m' : Fields} {j j' : Json} : Dict.at? m key = some j →
      Dict.at? m' key = some j' → (∀ other, other ≠ key → Dict.at? m' other = Dict.at? m other) → Apart place j j' →
      Apart (.key key :: place) (.obj m) (.obj m')
  | item {n : Nat} {place : List Step} {items : List Json} {j j' : Json} : items[n]? = some j → Apart place j j' →
      Apart (.index n :: place) (.arr items) (.arr (items.set n j'))

end Json

section Reading

variable {α β γ ε : Type} {n : Nat} {items : List Json} {j : Json}

theorem bind_eq_map_bind {r : Except ε α} {f f' : α → Except ε β} {g : β → β} (h : ∀ a, f' a = (f a).map g) :
    (r >>= f') = (r >>= f).map g := by
  cases r with
  | error e => rfl
  | ok a => exact h a

theorem map_bind_eq {r : Except ε α} {v : α → γ} {f : γ → Except ε β} : (r.map v >>= f) = r >>= fun a => f (v a) := by
  cases r <;> rfl

theorem Fields.given_congr [JsonForm α] {m m' : Fields} {key : String} (h : Dict.at? m' key = Dict.at? m key) :
    (Fields.given m' key : Decoded (Option α)) = Fields.given m key := by
  rw [Fields.given_eq, Fields.given_eq, h]

theorem Fields.given_of_at? [JsonForm α] {m : Fields} {key : String} (h : Dict.at? m key = some j) :
    (Fields.given m key : Decoded (Option α)) = (decode j).map some := by
  rw [Fields.given_eq, h]
  rfl

theorem Positions.element_set_of_ne [JsonForm α] {n' : Nat} (h : n ≠ n') (wanted : String) :
    (Positions.element wanted (items.set n j) n' : Decoded α) = Positions.element wanted items n' := by
  rw [Positions.element, Positions.element, List.getElem?_set_ne h]

theorem Positions.elementOr_set_of_ne [JsonForm α] {n' : Nat} (h : n ≠ n') (default : α) :
    Positions.elementOr (items.set n j) n' default = Positions.elementOr items n' default := by
  rw [Positions.elementOr, Positions.elementOr, List.getElem?_set_ne h]

theorem Positions.elementOr_of_getElem? [JsonForm α] (h : items[n]? = some j) (default : α) :
    Positions.elementOr items n default = decode j := by
  rw [Positions.elementOr, h]

theorem Positions.elementOr_set {old : Json} [JsonForm α] (h : items[n]? = some old) (default : α) :
    Positions.elementOr (items.set n j) n default = decode j := by
  have hn : n < items.length := (List.getElem?_eq_some_iff.1 h).1
  rw [Positions.elementOr, List.getElem?_set_self hn]

theorem Positions.exhausted_set (n' : Nat) : Positions.exhausted (items.set n j) n' = Positions.exhausted items n' := by
  rw [Positions.exhausted, Positions.exhausted, List.length_set]

end Reading

namespace Ide

variable {j j' : Json}

def passwordPlaces : List Json.Step := [.key "passwordSecret", .index 3]

def withPassword (i : Ide) (password : String) : Ide := { i with password }

theorem decode_apart {step : Json.Step} (hstep : step ∈ passwordPlaces) (h : Json.Apart [step] j j') :
    ∃ password, (decode j' : Decoded Ide) = (decode j : Decoded Ide).map (·.withPassword password) := by
  cases h with
  | @member key _ m m' _ _ hj hj' hothers htext =>
      obtain rfl : key = "passwordSecret" := by simpa [passwordPlaces] using hstep
      cases htext with
      | text t t' =>
          refine ⟨t', ?_⟩
          show ofFields m' = (ofFields m).map (·.withPassword t')
          unfold ofFields
          rw [Fields.given_congr (hothers "extensions" (by decide)),
            Fields.given_congr (hothers "settings" (by decide)), Fields.given_congr (hothers "type" (by decide)),
            Fields.given_of_at? hj, Fields.given_of_at? hj']
          exact bind_eq_map_bind fun _ => bind_eq_map_bind (r := Fields.given m "settings") fun _ =>
            bind_eq_map_bind fun _ => rfl
  | @item n _ items _ _ hj htext =>
      obtain rfl : n = 3 := by simpa [passwordPlaces] using hstep
      cases htext with
      | text t t' =>
          refine ⟨t', ?_⟩
          show ofItems (items.set 3 (.str t')) = (ofItems items).map (·.withPassword t')
          unfold ofItems
          rw [Positions.elementOr_set hj, Positions.elementOr_of_getElem? hj,
            Positions.elementOr_set_of_ne (by decide), Positions.elementOr_set_of_ne (by decide),
            Positions.elementOr_set_of_ne (by decide), Positions.exhausted_set]
          exact bind_eq_map_bind fun _ => bind_eq_map_bind fun _ => bind_eq_map_bind fun _ =>
            bind_eq_map_bind (r := Positions.exhausted items 4) fun _ => rfl

end Ide

namespace EnvironmentSpec

variable {j j' : Json}

def idePlaces : List Json.Step := [.key "ide", .index 2]

def withPassword (spec : EnvironmentSpec) (password : String) : EnvironmentSpec :=
  { spec with ide := spec.ide.withPassword password }

theorem decode_apart {step step' : Json.Step} (hstep : step ∈ idePlaces) (hstep' : step' ∈ Ide.passwordPlaces)
    (h : Json.Apart [step, step'] j j') : ∃ password,
      (decode j' : Decoded EnvironmentSpec) = (decode j : Decoded EnvironmentSpec).map (·.withPassword password) := by
  cases h with
  | @member key _ m m' i i' hi hi' hothers hide =>
      obtain rfl : key = "ide" := by simpa [idePlaces] using hstep
      obtain ⟨password, hread⟩ := Ide.decode_apart hstep' hide
      refine ⟨password, ?_⟩
      show ofFields m' = (ofFields m).map (·.withPassword password)
      unfold ofFields
      rw [Fields.given_congr (hothers "database" (by decide)), Fields.given_congr (hothers "dependencies" (by decide)),
        Fields.given_congr (hothers "language" (by decide)), Fields.given_congr (hothers "version" (by decide)),
        Fields.given_of_at? hi, Fields.given_of_at? hi', hread]
      refine bind_eq_map_bind fun _ => bind_eq_map_bind fun _ => ?_
      rw [map_bind_eq, map_bind_eq, map_bind_eq]
      exact bind_eq_map_bind fun _ => bind_eq_map_bind fun _ => bind_eq_map_bind fun _ => bind_eq_map_bind fun _ => rfl
  | @item n _ items i i' hi hide =>
      obtain rfl : n = 2 := by simpa [idePlaces] using hstep
      obtain ⟨password, hread⟩ := Ide.decode_apart hstep' hide
      refine ⟨password, ?_⟩
      show ofItems (items.set 2 i') = (ofItems items).map (·.withPassword password)
      unfold ofItems
      rw [Positions.elementOr_set hi, Positions.elementOr_of_getElem? hi, Positions.element_set_of_ne (by decide),
        Positions.elementOr_set_of_ne (by decide), Positions.elementOr_set_of_ne (by decide),
        Positions.elementOr_set_of_ne (by decide), Positions.exhausted_set, hread]
      refine bind_eq_map_bind fun _ => bind_eq_map_bind fun _ => ?_
      rw [map_bind_eq]
      exact bind_eq_map_bind fun _ => bind_eq_map_bind fun _ => bind_eq_map_bind fun _ => bind_eq_map_bind fun _ => rfl

end EnvironmentSpec

/-- Two objects that differ in the text of the password of an environment and in nothing else. -/
structure Object.PasswordApart (o o' : Object) : Prop where
  types : o'.types = o.types
  metadata : o'.metadata = o.metadata
  data : ∃ ide ∈ EnvironmentSpec.idePlaces, ∃ password ∈ Ide.passwordPlaces,
    Json.Apart [.key "spec", ide, password] o.data o'.data

namespace Environment

def withPassword (env : Environment) (password : String) : Environment :=
  { env with spec := env.spec.withPassword password }

theorem ofObject_apart {o o' : Object} (h : o.PasswordApart o') : ∃ password,
    (Manifest.ofObject o' : Decoded Environment) =
      (Manifest.ofObject o : Decoded Environment).map (·.withPassword password) := by
  obtain ⟨ide, hide, step, hstep, hdata⟩ := h.data
  generalize ho : o.data = data at hdata
  generalize ho' : o'.data = data' at hdata
  cases hdata with
  | member hspec hspec' hothers hapart =>
      obtain ⟨password, hread⟩ := EnvironmentSpec.decode_apart hide hstep hapart
      refine ⟨password, ?_⟩
      rw [Manifest.ofObject_of_members (Object.members_of_data ho),
        Manifest.ofObject_of_members (Object.members_of_data ho')]
      simp only [Manifest.ofMembers, Fields.optional_eq, hothers "status" (by decide), h.metadata]
      rw [Fields.given_of_at? hspec, Fields.given_of_at? hspec', hread, map_bind_eq, map_bind_eq, map_bind_eq]
      exact bind_eq_map_bind fun _ => bind_eq_map_bind fun _ => rfl

end Environment

end EnvironmentOperator
