import EnvironmentOperator.Cluster.Operation
import EnvironmentOperator.Proofs.Cluster.Kept
import Mathlib.Logic.Relation
/-!
What becomes of a cluster that others work on. Whatever they do, an object that is found later was there before or
bears a version that is newer, so a replace that names the version it was computed from is refused as soon as anything
has been written in its place.
-/
namespace EnvironmentOperator.Cluster

/-- An operation from outside, at whatever time. The calls of a program are among them. -/
def Move (c c' : Cluster) : Prop := ∃ now op, c' = (Operation.perform now c op).2

def Moves : Cluster → Cluster → Prop := Relation.ReflTransGen Move

def Overwritten (k : Key) (c c' : Cluster) : Prop :=
  ∃ c₁ c₂, Moves c c₁ ∧ Move c₁ c₂ ∧ c₂.find? k ≠ c₁.find? k ∧ Moves c₂ c'

def Newer (c : Cluster) (o : Object) : Prop :=
  ∃ n, c.lastVersion < n ∧ o.metadata.resourceVersion = some (Text.decimal n)

structure Later (c c' : Cluster) : Prop where
  lastVersion : c.lastVersion ≤ c'.lastVersion
  objects : ∀ k o, c'.find? k = some o → c.find? k = some o ∨ Newer c o

section Later

variable {c c' c'' : Cluster} {k : Key} {o : Object}

theorem Newer.mono (h : Newer c' o) (hle : c.lastVersion ≤ c'.lastVersion) : Newer c o := by
  obtain ⟨n, hn, hversion⟩ := h
  exact ⟨n, Nat.lt_of_le_of_lt hle hn, hversion⟩

theorem Later.refl (c : Cluster) : Later c c := ⟨Nat.le_refl _, fun _ _ ho => .inl ho⟩

theorem Later.trans (h : Later c c') (h' : Later c' c'') : Later c c'' where
  lastVersion := Nat.le_trans h.lastVersion h'.lastVersion
  objects k o ho := by
    rcases h'.objects k o ho with hbefore | hnewer
    · exact h.objects k o hbefore
    · exact .inr (hnewer.mono h.lastVersion)

theorem Advanced.later (h : Advanced c c') : Later c c' where
  lastVersion := h.lastVersion
  objects k o ho := by
    rcases h.objects k o ho with hbefore | hversion
    · exact .inl hbefore
    · exact .inr ⟨c.lastVersion + 1, Nat.lt_succ_self _, hversion⟩

theorem Move.cases (h : Move c c') :
    (∃ now call, c' = (c.answer now call).2) ∨ ∃ faults, c' = { c with faults } := by
  obtain ⟨now, op, rfl⟩ := h
  have hcall (call : Call) : (∃ now' call', (c.answer now call).2 = (c.answer now' call').2) ∨
      ∃ faults, (c.answer now call).2 = { c with faults } := .inl ⟨now, call, rfl⟩
  have hfaults (faults : List Fault) : (∃ now call, { c with faults } = (c.answer now call).2) ∨
      ∃ faults', { c with faults } = { c with faults := faults' } := .inr ⟨faults, rfl⟩
  cases op with
  | create resource o => exact hcall (.create resource o)
  | replace resource o => exact hcall (.replace resource o)
  | get a => exact hcall (.get a)
  | getTyped kind ns name => exact hcall (.get (.ofKind kind ns name))
  | peek a => exact hfaults c.faults
  | edit a changes =>
      simp only [Operation.perform]
      split
      · exact hfaults c.faults
      · split
        · exact hfaults c.faults
        · rename_i next _
          exact hcall (.replace a.resource next)
  | delete a => exact hcall (.delete a)
  | patchStatus a status => exact hcall (.patchStatus a status)
  | plant fault => exact hfaults (c.faults ++ [fault])
  | clearFaults => exact hfaults []
  | contains a => exact hfaults c.faults
  | objects => exact hfaults c.faults
  | size => exact hfaults c.faults

theorem move_answer (now : Instant) (c : Cluster) (call : Call) : Move c (c.answer now call).2 := by
  cases call with
  | get a => exact ⟨now, .get a, rfl⟩
  | create resource o => exact ⟨now, .create resource o, rfl⟩
  | replace resource o => exact ⟨now, .replace resource o, rfl⟩
  | delete a => exact ⟨now, .delete a, rfl⟩
  | patchStatus a status => exact ⟨now, .patchStatus a status, rfl⟩

theorem Move.kept (h : Move c c') (hk : c.Kept) : c'.Kept := by
  rcases h.cases with ⟨now, call, rfl⟩ | ⟨faults, rfl⟩
  · exact hk.answer now call
  · exact hk

theorem Move.later (h : Move c c') : Later c c' := by
  rcases h.cases with ⟨now, call, rfl⟩ | ⟨faults, rfl⟩
  · exact (advanced_answer now c call).later
  · exact ⟨Nat.le_refl _, fun _ _ ho => .inl ho⟩

theorem Moves.kept (h : Moves c c') (hk : c.Kept) : c'.Kept := by
  induction h with
  | refl => exact hk
  | tail _ hmove ih => exact hmove.kept ih

theorem Moves.later (h : Moves c c') : Later c c' := by
  induction h with
  | refl => exact .refl c
  | tail _ hmove ih => exact ih.trans hmove.later

theorem Overwritten.newer (h : Overwritten k c c') (ho : c'.find? k = some o) : Newer c o := by
  obtain ⟨c₁, c₂, hbefore, hmove, hwritten, hafter⟩ := h
  have hle := hbefore.later.lastVersion
  -- What is found in the end came with the write or after it: it is not what was found just before.
  rcases hafter.later.objects k o ho with ho₂ | hnewer
  · rcases hmove.later.objects k o ho₂ with ho₁ | hnewer
    · exact absurd (ho₂.trans ho₁.symm) hwritten
    · exact hnewer.mono hle
  · exact hnewer.mono (Nat.le_trans hle hmove.later.lastVersion)

end Later

section Replace

variable {c seen : Cluster} {resource : Resource} {next live current : Object} {now : Instant}

structure Based (resource : Resource) (next : Object) (seen : Cluster) (live : Object) : Prop where
  read : seen.find? (Call.addressOf resource next).key = some live
  version : next.metadata.resourceVersion = live.metadata.resourceVersion

theorem Based.stale (h : Based resource next seen live) (hk : seen.Kept) (hnewer : Newer seen current) :
    isStale current next = true := by
  obtain ⟨m, hm, hversion⟩ := (hk _ _ h.read).version
  obtain ⟨n, hn, hcurrent⟩ := hnewer
  rw [isStale, h.version, hversion, hcurrent]
  have hne : Text.decimal n ≠ Text.decimal m := by
    intro he
    have hsame := Text.decimal_injective he
    omega
  simpa using hne

theorem Based.accepted (h : Based resource next seen live) (hk : seen.Kept) (hlater : Later seen c) {o : Object}
    (ho : (c.answer now (.replace resource next)).1 = .ok o) :
    c.find? (Call.addressOf resource next).key = some live := by
  obtain ⟨current, hcurrent, hstale⟩ := find?_of_accepted ho
  rcases hlater.objects _ _ hcurrent with hbefore | hnewer
  · cases h.read.symm.trans hbefore
    exact hcurrent
  · rw [h.stale hk hnewer] at hstale
    cases hstale

structure Refuses (now : Instant) (c : Cluster) (resource : Resource) (next : Object) : Prop where
  error : ∃ e, (c.answer now (.replace resource next)).1 = .error e ∧ (c.Calm (.replace resource next) →
    match c.find? (Call.addressOf resource next).key with
    | none => e.isNotFound = true
    | some _ => e.isConflict = true)
  survives : Spent c (c.answer now (.replace resource next)).2

theorem Based.refused (h : Based resource next seen live) (hk : seen.Kept)
    (hwritten : Overwritten (Call.addressOf resource next).key seen c) : Refuses now c resource next := by
  rcases answer_cases now c (.replace resource next) with ⟨-, ha⟩ | ⟨hstruck, e, c', ha, hspent, -⟩
  · rw [perform] at ha
    cases hfind : c.find? (Call.addressOf resource next).key with
    | none =>
        rw [replace_of_missing hfind] at ha
        refine ⟨⟨_, congrArg Prod.fst ha, ?_⟩, ha ▸ Spent.refl c⟩
        intro _
        rw [hfind]
        rfl
    | some current =>
        rw [replace_of_stale hfind (h.stale hk (hwritten.newer hfind))] at ha
        refine ⟨⟨_, congrArg Prod.fst ha, ?_⟩, ha ▸ Spent.refl c⟩
        intro _
        rw [hfind]
        rfl
  · exact ⟨⟨e, congrArg Prod.fst ha, fun hcalm => absurd hcalm hstruck⟩, ha ▸ hspent⟩

end Replace

end EnvironmentOperator.Cluster
