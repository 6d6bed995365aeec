import EnvironmentOperator.Proofs.Manifest.Exchanged

namespace EnvironmentOperator

open ExchangeForm

section Members

variable {member fields : Option Json} {v : Option Instant}

theorem readOptional_instant (h : ∀ t ∈ v.toList, t.Recordable) :
    Fields.readOptional (v.map encode) = .ok (v.map Instant.wholeSeconds) :=
  readOptional_encode (by simpa [instants] using h)

theorem map_encode_wholeSeconds (v : Option Instant) : (v.map Instant.wholeSeconds).map encode = v.map encode :=
  map_encode_exchanged (by simp [fieldSets])

theorem map_wholeSeconds_eq_iff : v.map Instant.wholeSeconds = v ↔ ∀ t ∈ v.toList, t.wholeSeconds = t := by
  cases v <;> simp

theorem recordable_of_readOptional (h : Fields.readOptional member = .ok v) : ∀ t ∈ v.toList, t.Recordable := by
  simpa [Settled, instants] using (settled_of_readOptional h).1

theorem Fields.readOptional_json (fields : Option Json) :
    Fields.readOptional fields = .ok (fields.filter (· ≠ .null)) := by
  match fields with
  | none => rfl
  | some j => cases j <;> rfl

theorem filter_eq_self_iff : fields.filter (· ≠ .null) = fields ↔ ∀ j ∈ fields.toList, j ≠ .null := by
  cases fields <;> simp

theorem given_of_readOptional (h : Fields.readOptional member = .ok fields) : ∀ j ∈ fields.toList, j ≠ .null := by
  rw [Fields.readOptional_json] at h
  rw [← Except.ok.inj h]
  intro j hj
  simpa using (Option.mem_filter_iff.1 (Option.mem_toList.1 hj)).2

end Members

instance : ExchangeForm ManagedFields where
  instants f := f.time.toList
  fieldSets f := f.fieldsV1.toList
  exchanged := ManagedFields.exchanged
  encode_ne_null _ h := by cases h
  decode_encode f h := by
    show decode (Json.obj (Json.present _)) = _
    simp [decode, readOptional_instant h, Fields.readOptional_json, ManagedFields.exchanged]
  encode_exchanged f h := by
    refine congrArg Json.record ?_
    simp only [ManagedFields.exchanged, List.cons.injEq, Prod.mk.injEq, true_and, and_true]
    exact ⟨filter_eq_self_iff.2 h, map_encode_wholeSeconds f.time⟩
  exchanged_eq_iff f := by
    obtain ⟨_, _, _, _, _, _, _⟩ := f
    simp only [ManagedFields.exchanged, ManagedFields.mk.injEq, true_and, map_wholeSeconds_eq_iff, filter_eq_self_iff]
    exact and_comm
  of_decode h := by
    simp only [decode, bind_eq_ok, Fields.optional_eq] at h
    obtain ⟨_, -, _, -, _, -, fields, hfields, _, -, _, -, _, -, time, htime, h⟩ := h
    cases h
    exact ⟨recordable_of_readOptional htime, given_of_readOptional hfields⟩

instance : ExchangeForm Metadata where
  instants m := m.creationTimestamp.toList ++ m.deletionTimestamp.toList ++ m.managedFields.toList.flatMap instants
  fieldSets m := m.managedFields.toList.flatMap fieldSets
  exchanged := Metadata.exchanged
  encode_ne_null _ h := by cases h
  decode_encode m h := by
    obtain ⟨hown, hmanaged⟩ := List.forall_mem_append.1 h
    obtain ⟨hcreation, hdeletion⟩ := List.forall_mem_append.1 hown
    have hmanaged : Fields.readOptional (m.managedFields.map encode) =
        .ok (m.managedFields.map (·.map ManagedFields.exchanged)) := readOptional_encode hmanaged
    show decode (Json.obj (Json.present _)) = _
    simp [decode, readOptional_instant hcreation, readOptional_instant hdeletion, hmanaged, Metadata.exchanged]
  encode_exchanged m h := by
    have hmanaged : (m.managedFields.map (·.map ManagedFields.exchanged)).map encode = m.managedFields.map encode :=
      map_encode_exchanged h
    refine congrArg Json.record ?_
    simp only [Metadata.exchanged, List.cons.injEq, Prod.mk.injEq, true_and, and_true]
    exact ⟨map_encode_wholeSeconds _, map_encode_wholeSeconds _, hmanaged⟩
  exchanged_eq_iff m := by
    have hmanaged : m.managedFields.map (·.map ManagedFields.exchanged) = m.managedFields ↔
        (∀ t ∈ m.managedFields.toList.flatMap instants, t.wholeSeconds = t) ∧
          ∀ j ∈ m.managedFields.toList.flatMap fieldSets, j ≠ .null := member_exchanged_eq_iff
    have hparts : m.exchanged = m ↔ m.creationTimestamp.map Instant.wholeSeconds = m.creationTimestamp ∧
        m.deletionTimestamp.map Instant.wholeSeconds = m.deletionTimestamp ∧
          m.managedFields.map (·.map ManagedFields.exchanged) = m.managedFields := by
      obtain ⟨_, _, _, _, _, _, _, _, _, _, _, _, _, _, _⟩ := m
      simp only [Metadata.exchanged, Metadata.mk.injEq, true_and, and_true]
    rw [hparts, hmanaged, map_wholeSeconds_eq_iff, map_wholeSeconds_eq_iff, List.forall_mem_append,
      List.forall_mem_append]
    tauto
  of_decode h := by
    simp only [decode, bind_eq_ok, Fields.optional_eq] at h
    obtain ⟨_, -, _, -, creation, hcreation, _, -, deletion, hdeletion, _, -, _, -, _, -, _, -, managed, hmanaged, _, -,
      _, -, _, -, _, -, _, -, _, -, h⟩ := h
    cases h
    have hown := List.forall_mem_append.2
      ⟨recordable_of_readOptional hcreation, recordable_of_readOptional hdeletion⟩
    have hmanaged := settled_of_readOptional hmanaged
    exact ⟨List.forall_mem_append.2 ⟨hown, hmanaged.1⟩, hmanaged.2⟩

namespace Metadata

variable {m : Metadata}

theorem InstantFree.exchanged (h : m.InstantFree) : m.exchanged = m := by
  obtain ⟨hcreation, hdeletion, hmanaged⟩ := h
  cases m
  subst hcreation hdeletion hmanaged
  rfl

end Metadata

instance : ExchangeForm ClaimTemplate := ExchangePart.exchangeForm {
  part := ClaimTemplate.metadata
  put := fun x metadata => { x with metadata }
  decode_encode := fun x h => by
    show decode (Json.obj (Json.present _)) = _
    simp [decode, h]
  encode_put := fun x b h => by
    refine congrArg Json.record ?_
    simp only [List.cons.injEq, Prod.mk.injEq, true_and, and_true]
    exact h
  of_decode := fun h => by
    simp only [decode, bind_eq_ok, Fields.optional_eq] at h
    repeat obtain ⟨_, _, h⟩ := h
    exact settled_of_readOptional (by assumption) }

instance : ExchangeForm EphemeralVolume := ExchangePart.exchangeForm {
  part := EphemeralVolume.template
  put := fun x template => { x with template }
  decode_encode := fun x h => by
    show decode (Json.obj (Json.present _)) = _
    simp [decode, h]
  encode_put := fun x b h => by
    refine congrArg Json.record ?_
    simp only [List.cons.injEq, Prod.mk.injEq, true_and, and_true]
    exact h
  of_decode := fun h => by
    simp only [decode, bind_eq_ok, Fields.optional_eq] at h
    repeat obtain ⟨_, _, h⟩ := h
    exact settled_of_readOptional (by assumption) }

instance : ExchangeForm Volume := ExchangePart.exchangeForm {
  part := Volume.ephemeral
  put := fun x ephemeral => { x with ephemeral }
  decode_encode := fun x h => by
    show decode (Json.obj (Json.present _)) = _
    simp [decode, h]
  encode_put := fun x b h => by
    refine congrArg Json.record ?_
    simp only [List.cons.injEq, Prod.mk.injEq, true_and, and_true]
    exact h
  of_decode := fun h => by
    simp only [decode, bind_eq_ok, Fields.optional_eq] at h
    repeat obtain ⟨_, _, h⟩ := h
    exact settled_of_readOptional (by assumption) }

instance : ExchangeForm PodSpec := ExchangePart.exchangeForm {
  part := PodSpec.volumes
  put := fun x volumes => { x with volumes }
  decode_encode := fun x h => by
    show decode (Json.obj (Json.present _)) = _
    simp [decode, h]
  encode_put := fun x b h => by
    refine congrArg Json.record ?_
    simp only [List.cons.injEq, Prod.mk.injEq, true_and, and_true]
    exact h
  of_decode := fun h => by
    simp only [decode, bind_eq_ok, Fields.optional_eq] at h
    repeat obtain ⟨_, _, h⟩ := h
    exact settled_of_readOptional (by assumption) }

instance : ExchangeForm PodTemplate := ExchangeParts.exchangeForm {
  left := PodTemplate.metadata
  right := PodTemplate.spec
  put := fun x metadata spec => { x with metadata, spec }
  decode_encode := fun x hleft hright => by
    show decode (Json.obj (Json.present _)) = _
    simp [decode, hleft, hright]
  encode_put := fun x b c hleft hright => by
    refine congrArg Json.record ?_
    simp only [List.cons.injEq, Prod.mk.injEq, true_and, and_true]
    exact ⟨hleft, hright⟩
  of_decode := fun h => by
    simp only [decode, bind_eq_ok, Fields.optional_eq] at h
    repeat obtain ⟨_, _, h⟩ := h
    exact ⟨settled_of_readOptional (by assumption), settled_of_readOptional (by assumption)⟩ }

instance : ExchangeForm DeploymentSpec := ExchangePart.exchangeForm {
  part := fun s => some s.template
  put := fun s template => { s with template := template.getD s.template }
  decode_encode := fun s h => by
    rw [Option.map_some, Option.map_some] at h
    show decode (Json.obj (Json.present _)) = _
    simp [decode, h]
  encode_put := fun s b h => by
    obtain ⟨t, rfl, -⟩ := Option.map_eq_some_iff.1 h
    refine congrArg Json.record ?_
    simp only [List.cons.injEq, Prod.mk.injEq, true_and, and_true]
    exact h
  of_decode := fun h => by
    simp only [decode, bind_eq_ok, Fields.optional_eq, Fields.orElse_eq] at h
    obtain ⟨_, -, _, -, _, -, _, -, _, -, _, -, _, -, _, -, template, htemplate, h⟩ := h
    cases h
    exact settled_of_default (by simp [Settled, instants, fieldSets]) htemplate }

instance : ExchangeForm DeploymentCondition := ExchangeParts.exchangeForm {
  left := DeploymentCondition.lastTransitionTime
  right := DeploymentCondition.lastUpdateTime
  put := fun x lastTransitionTime lastUpdateTime => { x with lastTransitionTime, lastUpdateTime }
  decode_encode := fun x hleft hright => by
    show decode (Json.obj (Json.present _)) = _
    simp [decode, hleft, hright]
  encode_put := fun x b c hleft hright => by
    refine congrArg Json.record ?_
    simp only [List.cons.injEq, Prod.mk.injEq, true_and, and_true]
    exact ⟨hleft, hright⟩
  of_decode := fun h => by
    simp only [decode, bind_eq_ok, Fields.optional_eq] at h
    repeat obtain ⟨_, _, h⟩ := h
    exact ⟨settled_of_readOptional (by assumption), settled_of_readOptional (by assumption)⟩ }

instance : ExchangeForm DeploymentStatus := ExchangePart.exchangeForm {
  part := DeploymentStatus.conditions
  put := fun x conditions => { x with conditions }
  decode_encode := fun x h => by
    show decode (Json.obj (Json.present _)) = _
    simp [decode, h]
  encode_put := fun x b h => by
    refine congrArg Json.record ?_
    simp only [List.cons.injEq, Prod.mk.injEq, true_and, and_true]
    exact h
  of_decode := fun h => by
    simp only [decode, bind_eq_ok, Fields.optional_eq] at h
    repeat obtain ⟨_, _, h⟩ := h
    exact settled_of_readOptional (by assumption) }

instance : ExchangeForm ClaimCondition := ExchangeParts.exchangeForm {
  left := ClaimCondition.lastProbeTime
  right := ClaimCondition.lastTransitionTime
  put := fun x lastProbeTime lastTransitionTime => { x with lastProbeTime, lastTransitionTime }
  decode_encode := fun x hleft hright => by
    show decode (Json.obj (Json.present _)) = _
    simp [decode, hleft, hright]
  encode_put := fun x b c hleft hright => by
    refine congrArg Json.record ?_
    simp only [List.cons.injEq, Prod.mk.injEq, true_and, and_true]
    exact ⟨hleft, hright⟩
  of_decode := fun h => by
    simp only [decode, bind_eq_ok, Fields.optional_eq] at h
    repeat obtain ⟨_, _, h⟩ := h
    exact ⟨settled_of_readOptional (by assumption), settled_of_readOptional (by assumption)⟩ }

instance : ExchangeForm ClaimStatus := ExchangePart.exchangeForm {
  part := ClaimStatus.conditions
  put := fun x conditions => { x with conditions }
  decode_encode := fun x h => by
    show decode (Json.obj (Json.present _)) = _
    simp [decode, h]
  encode_put := fun x b h => by
    refine congrArg Json.record ?_
    simp only [List.cons.injEq, Prod.mk.injEq, true_and, and_true]
    exact h
  of_decode := fun h => by
    simp only [decode, bind_eq_ok, Fields.optional_eq] at h
    repeat obtain ⟨_, _, h⟩ := h
    exact settled_of_readOptional (by assumption) }

instance : ExchangeForm NamespaceCondition := ExchangePart.exchangeForm {
  part := NamespaceCondition.lastTransitionTime
  put := fun x lastTransitionTime => { x with lastTransitionTime }
  decode_encode := fun x h => by
    show decode (Json.obj (Json.present _)) = _
    simp [decode, h]
  encode_put := fun x b h => by
    refine congrArg Json.record ?_
    simp only [List.cons.injEq, Prod.mk.injEq, true_and, and_true]
    exact h
  of_decode := fun h => by
    simp only [decode, bind_eq_ok, Fields.optional_eq] at h
    repeat obtain ⟨_, _, h⟩ := h
    exact settled_of_readOptional (by assumption) }

instance : ExchangeForm NamespaceStatus := ExchangePart.exchangeForm {
  part := NamespaceStatus.conditions
  put := fun x conditions => { x with conditions }
  decode_encode := fun x h => by
    show decode (Json.obj (Json.present _)) = _
    simp [decode, h]
  encode_put := fun x b h => by
    refine congrArg Json.record ?_
    simp only [List.cons.injEq, Prod.mk.injEq, true_and, and_true]
    exact h
  of_decode := fun h => by
    simp only [decode, bind_eq_ok, Fields.optional_eq] at h
    repeat obtain ⟨_, _, h⟩ := h
    exact settled_of_readOptional (by assumption) }

instance : ExchangeForm ServiceCondition := ExchangePart.exchangeForm {
  part := fun c => some c.lastTransitionTime
  put := fun c time => { c with lastTransitionTime := time.getD c.lastTransitionTime }
  decode_encode := fun c h => by
    rw [Option.map_some, Option.map_some] at h
    show decode (Json.obj (Json.present _)) = _
    simp [decode, h]
  encode_put := fun c b h => by
    obtain ⟨t, rfl, -⟩ := Option.map_eq_some_iff.1 h
    refine congrArg Json.record ?_
    simp only [List.cons.injEq, Prod.mk.injEq, true_and, and_true]
    exact h
  of_decode := fun h => by
    simp only [decode, bind_eq_ok, Fields.optional_eq, Fields.orElse_eq] at h
    obtain ⟨_, -, time, htime, _, -, _, -, _, -, _, -, _, -, given, hgiven, h⟩ := h
    cases h
    exact settled_of_require (settled_of_readOptional htime) hgiven }

instance : ExchangeForm ServiceStatus := ExchangePart.exchangeForm {
  part := ServiceStatus.conditions
  put := fun x conditions => { x with conditions }
  decode_encode := fun x h => by
    show decode (Json.obj (Json.present _)) = _
    simp [decode, h]
  encode_put := fun x b h => by
    refine congrArg Json.record ?_
    simp only [List.cons.injEq, Prod.mk.injEq, true_and, and_true]
    exact h
  of_decode := fun h => by
    simp only [decode, bind_eq_ok, Fields.optional_eq] at h
    repeat obtain ⟨_, _, h⟩ := h
    exact settled_of_readOptional (by assumption) }

end EnvironmentOperator
