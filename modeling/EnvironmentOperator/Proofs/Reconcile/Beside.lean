import EnvironmentOperator.Proofs.Program.Amid
import EnvironmentOperator.Proofs.Reconcile.Provision
/-!
Ensuring declarations beside others who ensure theirs. The others leave the objects alone, except that an object that is
never revised may be made by whoever comes first; how the ensuring ends, and which objects it makes, was settled before
it began.
-/
namespace EnvironmentOperator

open Cluster

namespace Declaration

def CreatesOnly (d : Declaration) : Prop := ∀ live, d.revision live = .ok none

def Clear (d : Declaration) (before : Option Object) : Prop := ∀ live e, before = some live → d.revision live ≠ .error e

inductive Joined (d : Declaration) : Option Object → Option Object → Prop where
  | same (x : Option Object) : Joined d x x
  | made (c : Cluster) : d.CreatesOnly → Joined d none (some (c.admitted d.desired))

section Joined

variable {d : Declaration} {x y z : Option Object} {o : Object}

theorem Joined.trans (h : Joined d x y) (h' : Joined d y z) : Joined d x z := by
  cases h with
  | same => exact h'
  | made c hcreates =>
      cases h' with
      | same => exact .made c hcreates

theorem Joined.eq_some (h : Joined d (some o) y) : y = some o := by
  cases h
  rfl

theorem Joined.of_none (h : Joined d x none) : x = none := by
  cases h
  rfl

theorem Tends.key {c : Cluster} {call : Call} (h : d.Tends c call) (hd : d.Lawful) (hk : c.Kept) :
    call.address.key = d.address.key := by
  cases h with
  | look => rfl
  | create => rfl
  | revise hlive hnext => exact key_of_revision hd hk hlive hnext

end Joined

end Declaration

open Declaration

theorem Cluster.faults_perform (now : Instant) (c : Cluster) (call : Call) :
    (c.perform now call).2.faults = c.faults := by
  have hchange := change_perform now c call
  generalize (c.perform now call).2 = c' at hchange ⊢
  cases hchange <;> rfl

/-- What goes on beside a program that has the environment under `k` to itself and plans these declarations. Others
write under the keys in `busy` only. -/
structure Beside (k : Key) (plan : List Declaration) (busy : Key → Prop) (c c' : Cluster) : Prop where
  kept : c.Kept → c'.Kept
  calm : c.faults = [] → c'.faults = []
  own : c'.find? k = c.find? k
  joined : ∀ d ∈ plan, Joined d (c.find? d.address.key) (c'.find? d.address.key)
  idle : ∀ k', ¬busy k' → c'.find? k' = c.find? k'

theorem rely_beside (k : Key) (plan : List Declaration) (busy : Key → Prop) : Rely (Beside k plan busy) where
  refl _ := ⟨id, id, rfl, fun _ _ => .same _, fun _ _ => rfl⟩
  trans h h' := ⟨h'.kept ∘ h.kept, h'.calm ∘ h.calm, h'.own.trans h.own,
    fun d hd => (h.joined d hd).trans (h'.joined d hd), fun k' hk' => (h'.idle k' hk').trans (h.idle k' hk')⟩

theorem Beside.find? {k : Key} {plan : List Declaration} {busy : Key → Prop} {c c' : Cluster} {d : Declaration}
    {o : Object} (h : Beside k plan busy c c') (hd : d ∈ plan) (ho : c.find? d.address.key = some o) :
    c'.find? d.address.key = some o := by
  have hjoined := h.joined d hd
  rw [ho] at hjoined
  exact hjoined.eq_some

def Cluster.Vain (c : Cluster) (call : Call) : Prop := ∀ now, (c.perform now call).2 = c

inductive Acts (ds : List Declaration) (c : Cluster) : Call → Prop where
  | vain {call : Call} : c.Vain call → Acts ds c call
  | tend {d : Declaration} {call : Call} : d ∈ ds → d.Tends c call → Acts ds c call

structure Makes (ds : List Declaration) (call : Call) (c : Cluster) : Prop where
  kept : c.Kept
  calm : c.faults = []
  acts : Acts ds c call

structure Works (k : Key) (ds : List Declaration) (call : Call) (c : Cluster) : Prop where
  kept : c.Kept
  calm : c.faults = []
  acts : call.address.key = k ∨ Acts ds c call

structure Apart (k : Key) (plan : List Declaration) (k' : Key) (plan' : List Declaration) : Prop where
  own : k ≠ k'
  plan_own : ∀ d ∈ plan, d.address.key ≠ k'
  own_plan : ∀ d ∈ plan', d.address.key ≠ k
  shared : ∀ d ∈ plan, ∀ d' ∈ plan', d.address.key = d'.address.key →
    d'.desired = d.desired ∧ d.CreatesOnly ∧ d'.CreatesOnly

section Calls

variable {now : Instant} {k k' : Key} {ds ds' plan plan' : List Declaration} {call : Call} {c : Cluster}

theorem Makes.mono (h : Makes ds call c) (hds : ∀ d ∈ ds, d ∈ ds') : Makes ds' call c := by
  refine ⟨h.kept, h.calm, ?_⟩
  cases h.acts with
  | vain hvain => exact .vain hvain
  | tend hd htends => exact .tend (hds _ hd) htends

theorem Makes.works (h : Makes ds call c) (k : Key) : Works k ds call c := ⟨h.kept, h.calm, .inr h.acts⟩

theorem answer_of_faults (now : Instant) (h : c.faults = []) (call : Call) : c.answer now call = c.perform now call :=
  answer_of_calm now (calm_of_nil h call)

theorem faults_answer (now : Instant) (h : c.faults = []) (call : Call) : (c.answer now call).2.faults = [] := by
  rw [answer_of_faults now h, faults_perform, h]

theorem Makes.find? (h : Makes ds call c) (now : Instant) (hlawful : ∀ d ∈ ds, d.Lawful)
    (hds : ∀ d ∈ ds, d.address.key ≠ k') : (c.answer now call).2.find? k' = c.find? k' := by
  cases h.acts with
  | vain hvain => rw [answer_of_faults now h.calm, hvain now]
  | @tend d _ hd htends =>
      refine find?_answer_of_ne now c call ?_
      rw [htends.key (hlawful d hd) h.kept]
      exact (hds d hd).symm

theorem Makes.joined (h : Makes ds call c) (now : Instant) (hlawful : ∀ d ∈ ds, d.Lawful) {d' : Declaration}
    (hshared : ∀ d ∈ ds, d.address.key = d'.address.key → d'.desired = d.desired ∧ d.CreatesOnly ∧ d'.CreatesOnly) :
    Joined d' (c.find? d'.address.key) ((c.answer now call).2.find? d'.address.key) := by
  cases h.acts with
  | vain hvain =>
      rw [answer_of_faults now h.calm, hvain now]
      exact .same _
  | @tend d _ hd htends =>
      by_cases hkey : d.address.key = d'.address.key
      · obtain ⟨hdesired, hcreates, hcreates'⟩ := hshared d hd hkey
        rw [answer_of_faults now h.calm]
        cases htends with
        | look => exact .same _
        | create hmissing =>
            have hmissing' : c.find? (Call.addressOf d.kind.resource d.desired).key = none := hmissing
            have hput : (Call.addressOf d.kind.resource d.desired).key = d'.address.key := hkey
            rw [perform, create_of_missing hmissing', hput, find?_commit_put, if_pos rfl, ← hkey, hmissing, ← hdesired]
            exact .made c hcreates'
        | revise _ hnext =>
            rw [hcreates] at hnext
            cases hnext
      · rw [find?_answer_of_ne now c call]
        · exact .same _
        · rw [htends.key (hlawful d hd) h.kept]
          exact Ne.symm hkey

theorem Works.find? (h : Works k ds call c) (now : Instant) (hlawful : ∀ d ∈ ds, d.Lawful)
    (hidle : ¬(k' = k ∨ ∃ d ∈ ds, d.address.key = k')) : (c.answer now call).2.find? k' = c.find? k' := by
  obtain ⟨hown, hds⟩ := not_or.1 hidle
  rcases h.acts with hcall | hacts
  · exact find?_answer_of_ne now c call (hcall ▸ hown)
  · have hmakes : Makes ds call c := ⟨h.kept, h.calm, hacts⟩
    exact hmakes.find? now hlawful fun d hd hkey => hds ⟨d, hd, hkey⟩

theorem Apart.allowed (h : Apart k plan k' plan') (now : Instant) (hlawful : ∀ d ∈ ds, d.Lawful)
    (hds : ∀ d ∈ ds, d ∈ plan) : Program.Allowed (answerer now) (Works k ds)
      (Beside k' plan' fun k'' => k'' = k ∨ ∃ d ∈ ds, d.address.key = k'') where
  note _ c := (rely_beside ..).refl c
  answer call c hworks := by
    refine ⟨fun hk => hk.answer now call, fun hnil => faults_answer now hnil call, ?_, ?_,
      fun k'' hidle => hworks.find? now hlawful hidle⟩
    · exact hworks.find? now hlawful (not_or.2 ⟨h.own.symm, fun ⟨d, hd, hkey⟩ => h.plan_own d (hds d hd) hkey⟩)
    · intro d' hd'
      rcases hworks.acts with hown | hacts
      · have hsame : ((answerer now).answer call c).2.find? d'.address.key = c.find? d'.address.key :=
          find?_answer_of_ne now c call (hown ▸ h.own_plan d' hd')
        rw [hsame]
        exact .same _
      · have hmakes : Makes ds call c := ⟨hworks.kept, hworks.calm, hacts⟩
        exact hmakes.joined now hlawful fun d hd => h.shared d (hds d hd) d' hd'

end Calls

section Foretold

variable {now : Instant} {k : Key} {plan : List Declaration} {busy : Key → Prop} {c₀ c : Cluster}

/-- The declarations are still to be made: what was stored before the program began may have been joined by others. -/
structure Pending (ds : List Declaration) (c₀ c : Cluster) : Prop where
  kept : c.Kept
  calm : c.faults = []
  joined : ∀ d ∈ ds, Joined d (c₀.find? d.address.key) (c.find? d.address.key)

structure Finished (ds : List Declaration) (c₀ c : Cluster) : Prop where
  kept : c.Kept
  calm : c.faults = []
  made : ∀ d ∈ ds, ∃ o, c.find? d.address.key = some o ∧ d.Made (c₀.find? d.address.key) o

theorem Pending.beside {ds : List Declaration} {c' : Cluster} (h : Pending ds c₀ c) (hds : ∀ d ∈ ds, d ∈ plan)
    (hc : Beside k plan busy c c') : Pending ds c₀ c' where
  kept := hc.kept h.kept
  calm := hc.calm h.calm
  joined d hd := (h.joined d hd).trans (hc.joined d (hds d hd))

theorem Finished.beside {ds : List Declaration} {c' : Cluster} (h : Finished ds c₀ c) (hds : ∀ d ∈ ds, d ∈ plan)
    (hc : Beside k plan busy c c') : Finished ds c₀ c' where
  kept := hc.kept h.kept
  calm := hc.calm h.calm
  made d hd := by
    obtain ⟨o, ho, hmade⟩ := h.made d hd
    exact ⟨o, hc.find? (hds d hd) ho, hmade⟩

section Ensure

variable {d : Declaration} {before : Option Object}

def Settles (d : Declaration) (before : Option Object) {α : Type} (r : Except StoreError α) (c : Cluster) : Prop :=
  c.Kept ∧ c.faults = [] ∧ match r with
    | .ok _ => d.Clear before ∧ ∃ o, c.find? d.address.key = some o ∧ d.Made before o
    | .error e => ∃ live, before = some live ∧ d.revision live = .error e

def Presses (d : Declaration) (before : Option Object) (call : Call) (c : Cluster) : Prop :=
  c.Kept ∧ c.faults = [] ∧ (c.Vain call ∨ d.Clear before ∧ d.Tends c call)

theorem settles_put {α : Type} {a : α} {o : Object} (hk : (c.commit (Dict.put c.objects d.address.key o)).Kept)
    (hcalm : c.faults = []) (hclear : d.Clear before) (hmade : d.Made before o) :
    Settles d before (.ok a) (c.commit (Dict.put c.objects d.address.key o)) :=
  ⟨hk, hcalm, hclear, o, (find?_commit_put ..).trans (if_pos rfl), hmade⟩

theorem clear_none (d : Declaration) : d.Clear none := by
  rintro live e hlive -
  cases hlive

variable (hd : d.Lawful) (hmem : d ∈ plan)

include hmem

theorem Settles.beside {α : Type} {r : Except StoreError α} {c' : Cluster} (h : Settles d before r c)
    (hc : Beside k plan busy c c') : Settles d before r c' := by
  obtain ⟨hk, hcalm, hr⟩ := h
  refine ⟨hc.kept hk, hc.calm hcalm, ?_⟩
  cases r with
  | error e => exact hr
  | ok _ =>
      obtain ⟨hclear, o, ho, hmade⟩ := hr
      exact ⟨hclear, o, hc.find? hmem ho, hmade⟩

include hd

theorem revise_beside {live : Object} (hk : c.Kept) (hcalm : c.faults = []) (hlive : c.find? d.address.key = some live)
    (hjoined : Joined d before (some live)) :
    (d.revise live).Amid (answerer now) (Beside k plan busy) (Presses d before) (Settles d before) c := by
  unfold revise
  cases hjoined with
  | same =>
      cases hrevision : d.revision live with
      | error e =>
          intro c' hc'
          exact ⟨hc'.kept hk, hc'.calm hcalm, live, rfl, hrevision⟩
      | ok revision =>
          have hclear : d.Clear (some live) := by
            rintro live' e hlive' he
            cases hlive'
            rw [hrevision] at he
            cases he
          cases revision with
          | none =>
              intro c' hc'
              exact Settles.beside hmem ⟨hk, hcalm, hclear, live, hlive, .left hrevision⟩ hc'
          | some next =>
              refine Program.amid_request_bind.2 fun c₁ hc₁ => ?_
              have hk₁ := hc₁.kept hk
              have hcalm₁ := hc₁.calm hcalm
              have hlive₁ := hc₁.find? hmem hlive
              have hkept := hk₁.perform now (.replace d.kind.resource next)
              rw [perform, replace_of_revision hd hk₁ hlive₁ hrevision] at hkept
              refine ⟨⟨hk₁, hcalm₁, .inr ⟨hclear, .revise hlive₁ hrevision⟩⟩, ?_⟩
              simp only [answerer, answer_of_calm now (calm_of_nil hcalm₁ _), perform,
                replace_of_revision hd hk₁ hlive₁ hrevision]
              exact fun c' hc' => (settles_put hkept hcalm₁ hclear (.revised c₁ hrevision)).beside hmem hc'
  | made c' hcreates =>
      rw [hcreates]
      exact fun c'' hc'' => Settles.beside hmem ⟨hk, hcalm, clear_none d, _, hlive, .created c'⟩ hc''

theorem create_beside (hk : c.Kept) (hcalm : c.faults = []) (hmissing : c.find? d.address.key = none) :
    d.createOrRevise.Amid (answerer now) (Beside k plan busy) (Presses d none) (Settles d none) c := by
  refine Program.amid_attempt_bind.2 fun c₁ hc₁ => ?_
  have hk₁ := hc₁.kept hk
  have hcalm₁ := hc₁.calm hcalm
  have hjoined := hc₁.joined d hmem
  rw [hmissing] at hjoined
  cases hfind : c₁.find? d.address.key with
  | none =>
      have hkept := hk₁.perform now (.create d.kind.resource d.desired)
      rw [perform, create_of_missing hfind] at hkept
      refine ⟨⟨hk₁, hcalm₁, .inr ⟨clear_none d, .create hfind⟩⟩, ?_⟩
      simp only [answerer, answer_of_calm now (calm_of_nil hcalm₁ _), perform, create_of_missing hfind]
      exact fun c' hc' => (settles_put hkept hcalm₁ (clear_none d) (.created c₁)).beside hmem hc'
  | some live =>
      -- Somebody else was first. What they have made is as declared, and is left as it is.
      rw [hfind] at hjoined
      have hrefused : c₁.create d.kind.resource d.desired =
          (.error (.alreadyExists d.kind.resource.kind d.desired.metadata.nameText), c₁) := by
        have hfind : c₁.find? (Call.addressOf d.kind.resource d.desired).key = some live := hfind
        simp only [create, hfind]
      refine ⟨⟨hk₁, hcalm₁, .inl fun _ => congrArg Prod.snd hrefused⟩, ?_⟩
      simp only [answerer, answer_of_calm now (calm_of_nil hcalm₁ _), perform, hrefused]
      refine Program.amid_request_bind.2 fun c₂ hc₂ => ?_
      have hk₂ := hc₂.kept hk₁
      have hcalm₂ := hc₂.calm hcalm₁
      have hfind₂ := hc₂.find? hmem hfind
      refine ⟨⟨hk₂, hcalm₂, .inl fun _ => rfl⟩, ?_⟩
      simp only [answer_of_calm now (calm_of_nil hcalm₂ _), perform, get_of_find? hfind₂]
      exact revise_beside hd hmem hk₂ hcalm₂ hfind₂ hjoined

theorem converge_beside (hk : c.Kept) (hcalm : c.faults = []) (hjoined : Joined d before (c.find? d.address.key)) :
    d.converge.Amid (answerer now) (Beside k plan busy) (Presses d before) (Settles d before) c := by
  refine Program.amid_attempt_bind.2 fun c₁ hc₁ => ?_
  have hk₁ := hc₁.kept hk
  have hcalm₁ := hc₁.calm hcalm
  have hjoined₁ := hjoined.trans (hc₁.joined d hmem)
  refine ⟨⟨hk₁, hcalm₁, .inl fun _ => rfl⟩, ?_⟩
  simp only [answerer, answer_of_calm now (calm_of_nil hcalm₁ _), perform]
  cases hfind : c₁.find? d.address.key with
  | some live =>
      rw [get_of_find? hfind]
      exact revise_beside hd hmem hk₁ hcalm₁ hfind (hfind ▸ hjoined₁)
  | none =>
      rw [get_of_missing hfind]
      rw [hfind] at hjoined₁
      obtain rfl := hjoined₁.of_none
      exact create_beside hd hmem hk₁ hcalm₁ hfind

theorem ensure_beside (hk : c.Kept) (hcalm : c.faults = []) (hjoined : Joined d before (c.find? d.address.key)) :
    d.ensure.Amid (answerer now) (Beside k plan busy) (Presses d before) (Settles d before) c := by
  refine Program.amid_bind (rely_beside k plan busy)
    ((converge_beside hd hmem hk hcalm hjoined).mono (fun _ _ h => h) ?_)
  intro r c' h
  cases r with
  | error e => exact h
  | ok outcome => exact fun c₁ hc₁ c₂ hc₂ => (h.beside hmem hc₁).beside hmem hc₂

end Ensure

variable {ε ε' α β : Type} {ds ds' : List Declaration}

/-- How the program ends, and which of the declarations it makes, is settled before it begins. -/
def Foretold (now : Instant) (k : Key) (plan : List Declaration) (c₀ : Cluster) (ds : List Declaration)
    (p : Program ε α) : Prop :=
  ∃ (verdict : Except ε Unit) (cleared : List Declaration), (∀ d ∈ cleared, d ∈ ds) ∧
    ∀ busy c, Pending ds c₀ c → p.Amid (answerer now) (Beside k plan busy) (Makes cleared)
      (fun r c' => r.map (fun _ => ()) = verdict ∧ Finished cleared c₀ c') c

theorem foretold_nil : Foretold now k plan c₀ [] (.done () : Program ε Unit) := by
  refine ⟨.ok (), [], fun _ hd => hd, ?_⟩
  intro busy c h c' hc'
  exact ⟨rfl, hc'.kept h.kept, hc'.calm h.calm, by simp⟩

theorem Foretold.mapError {p : Program ε α} (h : Foretold now k plan c₀ ds p) (g : ε → ε') :
    Foretold now k plan c₀ ds (p.mapError g) := by
  obtain ⟨verdict, cleared, hcleared, hamid⟩ := h
  refine ⟨verdict.mapError g, cleared, hcleared, ?_⟩
  intro busy c hpending
  refine Program.amid_mapError.2 ((hamid busy c hpending).mono (fun _ _ h => h) ?_)
  rintro r c' ⟨rfl, hfinished⟩
  refine ⟨?_, hfinished⟩
  cases r <;> rfl

variable (hlawful : ∀ d ∈ plan, d.Lawful)

include hlawful

theorem foretold_ensure {d : Declaration} (hmem : d ∈ plan) : Foretold now k plan c₀ [d] d.ensure := by
  have hensure (busy : Key → Prop) (c : Cluster) (h : Pending [d] c₀ c) :
      d.ensure.Amid (answerer now) (Beside k plan busy) (Presses d (c₀.find? d.address.key))
        (Settles d (c₀.find? d.address.key)) c :=
    ensure_beside (hlawful d hmem) hmem h.kept h.calm (h.joined d (List.mem_singleton.2 rfl))
  by_cases hclear : d.Clear (c₀.find? d.address.key)
  · refine ⟨.ok (), [d], fun _ hd => hd, fun busy c h => (hensure busy c h).mono ?_ ?_⟩
    · rintro call c ⟨hk, hcalm, hvain | ⟨-, htends⟩⟩
      · exact ⟨hk, hcalm, .vain hvain⟩
      · exact ⟨hk, hcalm, .tend (List.mem_singleton.2 rfl) htends⟩
    · rintro r c' ⟨hk, hcalm, hr⟩
      cases r with
      | error e =>
          obtain ⟨live, hlive, he⟩ := hr
          exact absurd he (hclear live e hlive)
      | ok outcome =>
          refine ⟨rfl, hk, hcalm, ?_⟩
          intro d' hd'
          cases List.mem_singleton.1 hd'
          exact hr.2
  · simp only [Clear, not_forall, not_not] at hclear
    obtain ⟨live, e, hlive, he⟩ := hclear
    refine ⟨.error e, [], by simp, fun busy c h => (hensure busy c h).mono ?_ ?_⟩
    · rintro call c ⟨hk, hcalm, hvain | ⟨hclear, -⟩⟩
      · exact ⟨hk, hcalm, .vain hvain⟩
      · exact absurd he (hclear live e hlive)
    · rintro r c' ⟨hk, hcalm, hr⟩
      cases r with
      | error e' =>
          obtain ⟨live', hlive', he'⟩ := hr
          cases hlive.symm.trans hlive'
          cases he.symm.trans he'
          exact ⟨rfl, hk, hcalm, by simp⟩
      | ok outcome => exact absurd he (hr.1 live e hlive)

theorem Makes.pending {call : Call} (h : Makes ds call c) (hds : ∀ d ∈ ds, d ∈ plan)
    (hne : ∀ d ∈ ds, ∀ d' ∈ ds', d.address.key ≠ d'.address.key) (hpending : Pending ds' c₀ c) :
    Pending ds' c₀ (c.answer now call).2 where
  kept := h.kept.answer now call
  calm := faults_answer now h.calm call
  joined d' hd' := by
    rw [h.find? now (fun d hd => hlawful d (hds d hd)) fun d hd => hne d hd d' hd']
    exact hpending.joined d' hd'

theorem Makes.finished {call : Call} (h : Makes ds' call c) (hds' : ∀ d ∈ ds', d ∈ plan)
    (hne : ∀ d ∈ ds, ∀ d' ∈ ds', d.address.key ≠ d'.address.key) (hfinished : Finished ds c₀ c) :
    Finished ds c₀ (c.answer now call).2 where
  kept := h.kept.answer now call
  calm := faults_answer now h.calm call
  made d hd := by
    rw [h.find? now (fun d hd => hlawful d (hds' d hd)) fun d' hd' => (hne d hd d' hd').symm]
    exact hfinished.made d hd

theorem Foretold.bind {p : Program ε α} {q : Program ε β} (hds : ∀ d ∈ ds, d ∈ plan) (hds' : ∀ d ∈ ds', d ∈ plan)
    (hdistinct : Stage.Distinct (ds ++ ds')) (h : Foretold now k plan c₀ ds p) (h' : Foretold now k plan c₀ ds' q) :
    Foretold now k plan c₀ (ds ++ ds') (p.bind fun _ => q) := by
  obtain ⟨verdict, cleared, hcleared, hamid⟩ := h
  obtain ⟨verdict', cleared', hcleared', hamid'⟩ := h'
  have hrely := fun busy => rely_beside k plan busy
  have hne : ∀ d ∈ cleared, ∀ d' ∈ ds', d.address.key ≠ d'.address.key :=
    fun d hd d' hd' => Stage.Provisioned.key_ne hdistinct (hcleared d hd) hd'
  have hplan : ∀ d ∈ cleared, d ∈ plan := fun d hd => hds d (hcleared d hd)
  have hfirst (busy : Key → Prop) (c : Cluster) (hpending : Pending (ds ++ ds') c₀ c) :=
    (hamid busy c ⟨hpending.kept, hpending.calm, fun d hd => hpending.joined d (List.mem_append_left _ hd)⟩).kept
      (I := Pending ds' c₀) (fun _ _ hc hi => hi.beside hds' hc)
      (fun _ _ hi hmakes => hmakes.pending hlawful hplan hne hi) (fun _ _ hi => hi)
      ⟨hpending.kept, hpending.calm, fun d hd => hpending.joined d (List.mem_append_right _ hd)⟩
  cases verdict with
  | error e =>
      refine ⟨.error e, cleared, fun d hd => List.mem_append_left _ (hcleared d hd), fun busy c hpending => ?_⟩
      refine Program.amid_bind (hrely busy) ((hfirst busy c hpending).mono (fun _ _ h => h.1) ?_)
      rintro r c' ⟨⟨hverdict, hfinished⟩, -⟩
      cases r with
      | error e' => exact ⟨hverdict, hfinished⟩
      | ok a => cases hverdict
  | ok _ =>
      refine ⟨verdict', cleared ++ cleared', ?_, fun busy c hpending => ?_⟩
      · intro d hd
        rcases List.mem_append.1 hd with hd | hd
        · exact List.mem_append_left _ (hcleared d hd)
        · exact List.mem_append_right _ (hcleared' d hd)
      refine Program.amid_bind (hrely busy) ((hfirst busy c hpending).mono
        (fun _ _ h => h.1.mono fun d hd => List.mem_append_left _ hd) ?_)
      rintro r c₁ ⟨⟨hverdict, hfinished⟩, hpending'⟩
      cases r with
      | error e => cases hverdict
      | ok a =>
          have hsecond := (hamid' busy c₁ hpending').kept (I := Finished cleared c₀)
            (fun _ _ hc hi => hi.beside hplan hc)
            (fun _ _ hi hmakes => hmakes.finished hlawful (fun d hd => hds' d (hcleared' d hd))
              (fun d hd d' hd' => hne d hd d' (hcleared' d' hd')) hi)
            (fun _ _ hi => hi) hfinished
          refine hsecond.mono (fun _ _ h => h.1.mono fun d hd => List.mem_append_right _ hd) ?_
          rintro r c' ⟨⟨hverdict', hfinished'⟩, hfinished⟩
          refine ⟨hverdict', hfinished.kept, hfinished.calm, ?_⟩
          intro d hd
          rcases List.mem_append.1 hd with hd | hd
          · exact hfinished.made d hd
          · exact hfinished'.made d hd

theorem foretold_ensureAll (hds : ∀ d ∈ ds, d ∈ plan) (hdistinct : Stage.Distinct ds) :
    Foretold now k plan c₀ ds (Stage.ensureAll ds) := by
  induction ds with
  | nil => exact foretold_nil
  | cons d ds ih =>
      have hdistinct : Stage.Distinct ([d] ++ ds) := hdistinct
      have hmem := hds d (List.mem_cons_self ..)
      have hrest : ∀ d ∈ ds, d ∈ plan := fun d hd => hds d (List.mem_cons_of_mem _ hd)
      have hsingle : ∀ d' ∈ [d], d' ∈ plan := by simpa using hmem
      exact Foretold.bind hlawful hsingle hrest hdistinct ((foretold_ensure hlawful hmem).mapError _)
        (ih hrest (Stage.distinct_right hdistinct))

theorem foretold_provisionAll {s : Scope} {spec : EnvironmentSpec} (stages : List Stage)
    (hds : ∀ d ∈ stages.flatMap (Stage.declarations s spec), d ∈ plan)
    (hdistinct : Stage.Distinct (stages.flatMap (Stage.declarations s spec))) :
    Foretold now k plan c₀ (stages.flatMap (Stage.declarations s spec)) (Stage.provisionAll s spec stages) := by
  induction stages with
  | nil => exact foretold_nil
  | cons stage stages ih =>
      rw [List.flatMap_cons] at hds hdistinct ⊢
      have hstage := fun d hd => hds d (List.mem_append_left _ hd)
      have hrest := fun d hd => hds d (List.mem_append_right _ hd)
      exact Foretold.bind hlawful hstage hrest hdistinct
        ((foretold_ensureAll hlawful hstage (Stage.distinct_left hdistinct)).mapError _)
        (ih hrest (Stage.distinct_right hdistinct))

end Foretold

end EnvironmentOperator
