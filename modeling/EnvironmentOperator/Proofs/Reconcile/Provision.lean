import EnvironmentOperator.Proofs.Reconcile.Ensure
import EnvironmentOperator.Proofs.Reconcile.Stage

namespace EnvironmentOperator.Stage

open Cluster Declaration

structure Provisioned (ds : List Declaration) (c c' : Cluster) : Prop where
  made : ∀ d ∈ ds, ∃ o, c'.find? d.address.key = some o ∧ d.Made (c.find? d.address.key) o
  others : ∀ k, (∀ d ∈ ds, k ≠ d.address.key) → c'.find? k = c.find? k
  faults : c'.faults.Sublist c.faults
  calm : ∀ d ∈ ds, c'.Calm (.get d.address)
  kept : c'.Kept

def Distinct (ds : List Declaration) : Prop := (ds.map (fun d => d.address.key)).Nodup

namespace Provisioned

variable {ds ds' : List Declaration} {c c' c'' : Cluster}

theorem nil (hk : c.Kept) : Provisioned [] c c where
  made _ h := by cases h
  others _ _ := rfl
  faults := List.Sublist.refl _
  calm _ h := by cases h
  kept := hk

theorem of_ensured {d : Declaration} (h : d.Ensured c c') (hk : c'.Kept) : Provisioned [d] c c' where
  made d' hd' := by
    cases List.mem_singleton.1 hd'
    exact h.made
  others k hk := h.others k (hk d (List.mem_singleton.2 rfl))
  faults := h.faults
  calm d' hd' := by
    cases List.mem_singleton.1 hd'
    exact h.calm.of_sublist h.faults
  kept := hk

theorem key_ne (hdistinct : Distinct (ds ++ ds')) {d d' : Declaration} (hd : d ∈ ds) (hd' : d' ∈ ds') :
    d.address.key ≠ d'.address.key := by
  rw [Distinct, List.map_append] at hdistinct
  exact (List.nodup_append.1 hdistinct).2.2 _ (List.mem_map_of_mem hd) _ (List.mem_map_of_mem hd')

theorem find?_later (hdistinct : Distinct (ds ++ ds')) (h : Provisioned ds c c') {d : Declaration} (hd : d ∈ ds') :
    c'.find? d.address.key = c.find? d.address.key :=
  h.others _ fun _ hd' => (key_ne hdistinct hd' hd).symm

theorem append (hdistinct : Distinct (ds ++ ds')) (h : Provisioned ds c c') (h' : Provisioned ds' c' c'') :
    Provisioned (ds ++ ds') c c'' where
  made d hd := by
    rcases List.mem_append.1 hd with hd | hd
    · obtain ⟨o, ho, hmade⟩ := h.made d hd
      exact ⟨o, (h'.others _ fun d' hd' => key_ne hdistinct hd hd').trans ho, hmade⟩
    · obtain ⟨o, ho, hmade⟩ := h'.made d hd
      exact ⟨o, ho, h.find?_later hdistinct hd ▸ hmade⟩
  others k hk := by
    rw [h'.others k fun d hd => hk d (List.mem_append_right _ hd)]
    exact h.others k fun d hd => hk d (List.mem_append_left _ hd)
  faults := h'.faults.trans h.faults
  calm d hd := by
    rcases List.mem_append.1 hd with hd | hd
    · exact (h.calm d hd).of_sublist h'.faults
    · exact h'.calm d hd
  kept := h'.kept

theorem hindered (hdistinct : Distinct (ds ++ ds')) (h : Provisioned ds c c') {d : Declaration} (hd : d ∈ ds')
    (hindered : d.Hindered c') : d.Hindered c :=
  hindered.before h.faults (h.find?_later hdistinct hd)

end Provisioned

theorem distinct_left {ds ds' : List Declaration} (h : Distinct (ds ++ ds')) : Distinct ds := by
  rw [Distinct, List.map_append] at h
  exact (List.nodup_append.1 h).1

theorem distinct_right {ds ds' : List Declaration} (h : Distinct (ds ++ ds')) : Distinct ds' := by
  rw [Distinct, List.map_append] at h
  exact (List.nodup_append.1 h).2.1

section Along

variable (now : Instant) {ds : List Declaration} {c : Cluster}

theorem ensure_provisions {d : Declaration} (hd : d.Lawful) (hk : c.Kept) :
    d.ensure.Along (answerer now) (fun call c => d.Tends c call) (fun r c' => match r with
      | .ok _ => Provisioned [d] c c'
      | .error _ => d.Hindered c) c := by
  have hkept : d.ensure.Along (answerer now) (fun _ c => c.Kept) (fun _ c => c.Kept) c :=
    .of_kept (fun call _ hc => hc.answer now call) (fun _ _ hc => hc) _ hk
  refine ((ensure_along hd now hk).and hkept).mono (fun _ _ h => h.1) ?_
  intro r c' h
  cases r with
  | ok outcome => exact .of_ensured h.1 h.2
  | error e => exact h.1

theorem ensureAll_along (hlawful : ∀ d ∈ ds, d.Lawful) (hdistinct : Distinct ds) (hk : c.Kept) :
    (ensureAll ds).Along (answerer now) (fun call c => ∃ d ∈ ds, d.Tends c call) (fun r c' => match r with
      | .ok _ => Provisioned ds c c'
      | .error _ => ∃ d ∈ ds, d.Hindered c) c := by
  induction ds generalizing c with
  | nil => exact .nil hk
  | cons d ds ih =>
      have hdistinct : Distinct ([d] ++ ds) := hdistinct
      refine Program.along_bind.2 (Program.along_mapError.2 ?_)
      refine (ensure_provisions now (hlawful d (List.mem_cons_self ..)) hk).mono
        (fun _ _ h => ⟨d, List.mem_cons_self .., h⟩) ?_
      intro r c₁ h
      cases r with
      | error e => exact ⟨d, List.mem_cons_self .., h⟩
      | ok outcome =>
          refine (ih (fun d hd => hlawful d (List.mem_cons_of_mem _ hd)) (distinct_right hdistinct) h.kept).mono
            (fun _ _ ⟨d, hd, htends⟩ => ⟨d, List.mem_cons_of_mem _ hd, htends⟩) ?_
          intro r c' h'
          cases r with
          | ok _ => exact h.append hdistinct h'
          | error e =>
              obtain ⟨d', hd', hhindered⟩ := h'
              exact ⟨d', List.mem_cons_of_mem _ hd', h.hindered hdistinct hd' hhindered⟩

theorem provisionAll_along {s : Scope} {spec : EnvironmentSpec} (stages : List Stage)
    (hdistinct : Distinct (stages.flatMap (declarations s spec))) (hk : c.Kept) :
    (provisionAll s spec stages).Along (answerer now)
      (fun call c => ∃ d ∈ stages.flatMap (declarations s spec), d.Tends c call) (fun r c' => match r with
      | .ok _ => Provisioned (stages.flatMap (declarations s spec)) c c'
      | .error _ => ∃ d ∈ stages.flatMap (declarations s spec), d.Hindered c) c := by
  induction stages generalizing c with
  | nil => exact .nil hk
  | cons stage stages ih =>
      rw [List.flatMap_cons] at hdistinct ⊢
      refine Program.along_bind.2 (Program.along_mapError.2 ?_)
      refine (ensureAll_along now (fun _ hd => lawful_of_mem_declarations hd) (distinct_left hdistinct) hk).mono
        (fun _ _ ⟨d, hd, htends⟩ => ⟨d, List.mem_append_left _ hd, htends⟩) ?_
      intro r c₁ h
      cases r with
      | error e =>
          obtain ⟨d, hd, hhindered⟩ := h
          exact ⟨d, List.mem_append_left _ hd, hhindered⟩
      | ok _ =>
          refine (ih (distinct_right hdistinct) h.kept).mono
            (fun _ _ ⟨d, hd, htends⟩ => ⟨d, List.mem_append_right _ hd, htends⟩) ?_
          intro r c' h'
          cases r with
          | ok _ => exact h.append hdistinct h'
          | error e =>
              obtain ⟨d, hd, hhindered⟩ := h'
              exact ⟨d, List.mem_append_right _ hd, h.hindered hdistinct hd hhindered⟩

def Settled (c : Cluster) (d : Declaration) : Prop :=
  c.Calm (.get d.address) ∧ ∃ o, c.find? d.address.key = some o ∧ d.revision o = .ok none

theorem ensureAll_settled (h : ∀ d ∈ ds, Settled c d) :
    (ensureAll ds).Along (answerer now) (fun call c' => c' = c ∧ ∃ d ∈ ds, call = .get d.address)
      (fun r c' => c' = c ∧ r = .ok ()) c := by
  induction ds with
  | nil => exact ⟨rfl, rfl⟩
  | cons d ds ih =>
      obtain ⟨hcalm, o, ho, hsettled⟩ := h d (List.mem_cons_self ..)
      refine Program.along_bind.2 (Program.along_mapError.2 ?_)
      refine (ensure_settled now hcalm ho hsettled).mono
        (fun _ _ ⟨hc, hcall⟩ => ⟨hc, d, List.mem_cons_self .., hcall⟩) ?_
      rintro r c' ⟨rfl, rfl⟩
      exact (ih fun d hd => h d (List.mem_cons_of_mem _ hd)).mono
        (fun _ _ ⟨hc, d, hd, hcall⟩ => ⟨hc, d, List.mem_cons_of_mem _ hd, hcall⟩) fun _ _ h => h

theorem provisionAll_settled {s : Scope} {spec : EnvironmentSpec} {stages : List Stage}
    (h : ∀ d ∈ stages.flatMap (declarations s spec), Settled c d) :
    (provisionAll s spec stages).Along (answerer now)
      (fun call c' => c' = c ∧ ∃ d ∈ stages.flatMap (declarations s spec), call = .get d.address)
      (fun r c' => c' = c ∧ r = .ok ()) c := by
  induction stages with
  | nil => exact ⟨rfl, rfl⟩
  | cons stage stages ih =>
      rw [List.flatMap_cons] at h ⊢
      refine Program.along_bind.2 (Program.along_mapError.2 ?_)
      refine (ensureAll_settled now fun d hd => h d (List.mem_append_left _ hd)).mono
        (fun _ _ ⟨hc, d, hd, hcall⟩ => ⟨hc, d, List.mem_append_left _ hd, hcall⟩) ?_
      rintro r c' ⟨rfl, rfl⟩
      exact (ih fun d hd => h d (List.mem_append_right _ hd)).mono
        (fun _ _ ⟨hc, d, hd, hcall⟩ => ⟨hc, d, List.mem_append_right _ hd, hcall⟩) fun _ _ h => h

end Along

theorem Provisioned.settled {ds : List Declaration} {c c' : Cluster} (hlawful : ∀ d ∈ ds, d.Lawful)
    (h : Provisioned ds c c') : ∀ d ∈ ds, Settled c' d := by
  intro d hd
  obtain ⟨o, ho, hmade⟩ := h.made d hd
  exact ⟨h.calm d hd, o, ho, hmade.settled (hlawful d hd)⟩

end EnvironmentOperator.Stage
