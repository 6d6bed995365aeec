import EnvironmentOperator.Proofs.Password
import EnvironmentOperator.Proofs.Reconcile.Concurrent
import EnvironmentOperator.Proofs.Reconcile.Survey
import Mathlib.Data.List.Forall2

namespace EnvironmentOperator

open Cluster Environment Declaration Stage Pass

namespace Stage

section Parallel

variable {items items' : List (Stage × Declaration)} {item item' : Stage × Declaration} {c c' : Cluster} {stage : Stage}
  {d : Declaration} {k : Key}

/-- Two declarations of one object that come to the same in their clusters, or are both refused for one reason. Only the
object under `k` may be declared differently. -/
structure Parallel (k : Key) (c c' : Cluster) (item item' : Stage × Declaration) : Prop where
  stage : item'.1 = item.1
  address : item'.2.address = item.2.address
  verdict : (item'.2.verdict c').map (fun _ => ()) = (item.2.verdict c).map fun _ => ()
  same : item.2.address.key ≠ k → item'.2 = item.2

theorem Parallel.refusal_eq (h : Parallel k c c' item item') (e : StoreError) :
    refusal item'.1 item'.2 e = refusal item.1 item.2 e := by
  rw [refusal, refusal, h.stage, h.address]

theorem Parallel.of_verdict (h : d.verdict c' = d.verdict c) : Parallel k c c' (stage, d) (stage, d) :=
  ⟨rfl, rfl, congrArg (Except.map fun _ => ()) h, fun _ => rfl⟩

theorem survey_parallel (h : List.Forall₂ (Parallel k c c') items items') :
    (survey items' c').2 = (survey items c).2 ∧
      (survey items' c').1.map Declaration.address = (survey items c).1.map Declaration.address ∧
        ∀ d ∈ (survey items c).1, d.address.key ≠ k → d ∈ (survey items' c').1 := by
  induction h with
  | nil => exact ⟨rfl, rfl, fun _ hd => nomatch hd⟩
  | @cons item item' _ _ hitem _ ih =>
      have hverdict := hitem.verdict
      cases hv : item.2.verdict c <;> cases hv' : item'.2.verdict c' <;> rw [hv, hv'] at hverdict <;> cases hverdict
      case cons.error.error.refl =>
        rw [survey_cons_error hv, survey_cons_error hv']
        exact ⟨congrArg Except.error (hitem.refusal_eq _), rfl, fun _ hd => nomatch hd⟩
      case cons.ok.ok.refl =>
        obtain ⟨hresult, haddresses, hsame⟩ := ih
        rw [survey_cons_ok hv, survey_cons_ok hv']
        refine ⟨hresult, ?_, ?_⟩
        · rw [List.map_cons, List.map_cons, hitem.address, haddresses]
        · intro d hd hne
          rcases List.mem_cons.1 hd with rfl | hd
          · rw [hitem.same hne]
            exact List.mem_cons_self ..
          · exact List.mem_cons_of_mem _ (hsame d hd hne)

end Parallel

section Agenda

variable {α : Type} [Manifest α] {c c' : Cluster} {overlay : α → α → α} {x : α}

theorem verdict_overwrite (h : c.faults = []) : ((overwrite overlay x).verdict c).map (fun _ => ()) =
    match c.find? (overwrite overlay x).address.key with
    | none => .ok ()
    | some live => (live.typed α).map fun _ => () := by
  unfold verdict
  rw [struck_of_calm _ h, struck_of_calm _ h, struck_of_calm _ h]
  cases c.find? (overwrite overlay x).address.key with
  | none => rfl
  | some live =>
      cases hread : live.typed α with
      | error e =>
          have hrevision : (overwrite overlay x).revision live = .error e := by
            simp only [overwrite, hread]
            rfl
          simp only [hrevision, hread]
          rfl
      | ok current =>
          have hrevision : ∃ next, (overwrite overlay x).revision live = .ok next := by
            simp only [overwrite, hread]
            exact ⟨_, rfl⟩
          obtain ⟨next, hrevision⟩ := hrevision
          cases next <;> simp only [hrevision, hread] <;> rfl

def passwordKey (ns name : String) : Key := (Address.ofKind .secret (some ns) (Names.idePassword name)).key

theorem passwordKey_ne_keyOf {ns name : String} (s : Scope) : passwordKey ns name ≠ keyOf s :=
  ne_keyOf (show Kind.secret.name ≠ Kind.environment.name by decide) s

/-- The password is in one declaration only, and that one goes on whatever the password. -/
theorem agenda_parallel {s : Scope} (spec : EnvironmentSpec) (password : String) (h : c.faults = [])
    (h' : c'.faults = []) (hothers : ∀ k, k ≠ keyOf s → c'.find? k = c.find? k) :
    List.Forall₂ (Parallel (passwordKey s.namespace s.name) c c') (agenda s spec)
      (agenda s (spec.withPassword password)) := by
  have hfind {stage : Stage} {d : Declaration} (hd : d ∈ stage.declarations s spec) :
      c'.find? d.address.key = c.find? d.address.key :=
    hothers _ (ne_keyOf (kind_of_mem_declared (mem_declared stage hd)) s)
  have hsame (stage : Stage) : ∀ d ∈ stage.declarations s spec,
      Parallel (passwordKey s.namespace s.name) c c' (stage, d) (stage, d) := fun d hd =>
    .of_verdict (verdict_congr (struck_of_faults (h'.trans h.symm)) (hfind hd))
  refine List.rel_flatMap (List.forall₂_same.2 fun _ _ => rfl) ?_
  rintro stage _ rfl
  refine List.forall₂_map_left_iff.2 (List.forall₂_map_right_iff.2 ?_)
  cases stage with
  | ide =>
      have hsecret : Parallel (passwordKey s.namespace s.name) c c'
          (.ide, .overwrite Overlay.secret (Desired.idePassword s spec))
          (.ide, .overwrite Overlay.secret (Desired.idePassword s (spec.withPassword password))) := by
        refine ⟨rfl, rfl, ?_, fun hne => absurd rfl hne⟩
        rw [verdict_overwrite h, verdict_overwrite h']
        exact congrArg (fun found => match found with
          | none => Except.ok ()
          | some live => (live.typed Secret).map fun _ => ()) (hothers _ (passwordKey_ne_keyOf s))
      have hsame := hsame .ide
      simp only [declarations, List.forall_mem_cons] at hsame
      obtain ⟨hworkspace, -, hdeployment, hservice, hingress, -⟩ := hsame
      exact .cons hworkspace (.cons hsecret (.cons hdeployment (.cons hservice (.cons hingress .nil))))
  | «namespace» => exact List.forall₂_same.2 (hsame _)
  | certificate => exact List.forall₂_same.2 (hsame _)
  | tooling => exact List.forall₂_same.2 (hsame _)
  | database => exact List.forall₂_same.2 (hsame _)

end Agenda

end Stage

section Versions

variable {now : Instant} {own : Key} {c c' : Cluster} {a : Address} {o o' : Object}

theorem Object.erased_unversioned (before : Option Object) (o : Object) :
    o.unversioned.erased before = o.erased before := by
  cases before <;> rfl

theorem Object.eq_of_unversioned (h : o'.unversioned = o.unversioned) :
    ∃ resourceVersion, o' = { o with metadata := { o.metadata with resourceVersion } } := by
  refine ⟨o'.metadata.resourceVersion, ?_⟩
  obtain ⟨types, metadata, data⟩ := o
  obtain ⟨types', metadata', data'⟩ := o'
  cases metadata
  cases metadata'
  cases h
  rfl

def Cluster.Akin (own : Key) (c c' : Cluster) : Prop :=
  ∀ k, k ≠ own → (c'.find? k).map Object.unversioned = (c.find? k).map Object.unversioned

theorem Cluster.Akin.delete (h : Akin own c c') (now : Instant) (ha : a.key ≠ own) :
    Akin own (c.delete now a).2 (c'.delete now a).2 := by
  intro k hk
  by_cases hkey : k = a.key
  · subst hkey
    have hentry := h a.key ha
    cases hfind : c.find? a.key with
    | none =>
        rw [hfind] at hentry
        have hfind' : c'.find? a.key = none := Option.map_eq_none_iff.1 hentry
        rw [Teardown.delete_of_missing now hfind, Teardown.delete_of_missing now hfind', hfind, hfind']
    | some o =>
        rw [hfind] at hentry
        obtain ⟨o', hfind', hunversioned⟩ := Option.map_eq_some_iff.1 hentry
        obtain ⟨v, rfl⟩ := Object.eq_of_unversioned hunversioned
        cases hguarded : o.metadata.hasFinalizers with
        | false =>
            rw [Teardown.delete_of_unguarded now hfind hguarded, Teardown.delete_of_unguarded now hfind' hguarded]
            show (Dict.at? (Dict.without _ _) _).map _ = (Dict.at? (Dict.without _ _) _).map _
            rw [Dict.at?_without, Dict.at?_without, if_pos rfl, if_pos rfl]
        | true =>
            rw [Teardown.delete_of_guarded now hfind hguarded, Teardown.delete_of_guarded now hfind' hguarded]
            cases hdeletion : o.metadata.deletionTimestamp.isSome with
            | true =>
                simp only [if_true, hfind]
                exact hentry
            | false =>
                simp only [Bool.false_eq_true, if_false, find?_commit_put, if_true]
                rfl
  · rw [show (c.delete now a).2.find? k = c.find? k from find?_perform_of_ne now c (.delete a) hkey,
      show (c'.delete now a).2.find? k = c'.find? k from find?_perform_of_ne now c' (.delete a) hkey]
    exact h k hk

theorem Cluster.Akin.sweep {as : List Address} (h : Akin own c c') (now : Instant) (has : ∀ a ∈ as, a.key ≠ own) :
    Akin own (Teardown.sweep now as c) (Teardown.sweep now as c') := by
  induction as generalizing c c' with
  | nil => exact h
  | cons a as ih =>
      exact ih (h.delete now (has a (List.mem_cons_self ..))) fun b hb => has b (List.mem_cons_of_mem _ hb)

end Versions

namespace Pass

section Ends

variable {items items' : List (Stage × Declaration)} {own k : Key} {c c' e e' : Cluster}
  {r r' : Except PassError PassOutcome}

/-- Two passes end alike, and apart from the entries under `own` and `secret` they leave the same. -/
structure EndAlike (own secret : Key) (c c' : Cluster) (ended ended' : Except PassError PassOutcome × Cluster) :
    Prop where
  result : ended'.1 = ended.1
  others : ∀ k, k ≠ own → k ≠ secret → c'.erased ended'.2 k = c.erased ended.2 k

theorem endAlike_idle (hothers : ∀ k, k ≠ own → c'.find? k = c.find? k) (r : Except PassError PassOutcome) :
    EndAlike own k c c' (r, c) (r, c') :=
  ⟨rfl, fun k hne _ => by rw [erased, erased, hothers k hne]⟩

theorem Foreseen.parallel (h : Foreseen own items c r e) (h' : Foreseen own items' c' r' e')
    (hparallel : List.Forall₂ (Parallel k c c') items items') (hothers : ∀ k, k ≠ own → c'.find? k = c.find? k) :
    EndAlike own k c c' (r, e) (r', e') := by
  obtain ⟨hresult, haddresses, hsame⟩ := survey_parallel hparallel
  refine ⟨by rw [h.result, h'.result, hresult], ?_⟩
  intro k' hown hk
  have hbefore := hothers k' hown
  by_cases hcleared : ∃ d ∈ (survey items c).1, d.address.key = k'
  · obtain ⟨d, hd, rfl⟩ := hcleared
    obtain ⟨left, hleft, hmade⟩ := h.made d hd
    obtain ⟨left', hleft', hmade'⟩ := h'.made d (hsame d hd hk)
    rw [hbefore] at hmade'
    rw [erased, erased, hleft, hleft', hbefore]
    exact congrArg some (hmade'.erased hmade)
  · have hidle : ∀ d ∈ (survey items c).1, k' ≠ d.address.key := fun d hd he => hcleared ⟨d, hd, he.symm⟩
    have hidle' : ∀ d ∈ (survey items' c').1, k' ≠ d.address.key := by
      intro d' hd'
      have haddress : d'.address ∈ (survey items c).1.map Declaration.address := by
        rw [← haddresses]
        exact List.mem_map_of_mem hd'
      obtain ⟨d, hd, hsame⟩ := List.mem_map.1 haddress
      rw [← hsame]
      exact hidle d hd
    rw [erased, erased, h.others k' hown hidle, h'.others k' hown hidle', hbefore]

end Ends

section Secrecy

variable {password : String} {c c' : Cluster} {s : Scope} {o o' : Object} {env : Environment}

theorem find?_replace_withoutFinalizer {c₁ : Cluster} (hk : c.Kept) (hstored : Stored c (keyOf s) o env) {k : Key}
    (hne : k ≠ keyOf s) :
    (c₁.replace Kind.environment.resource (Manifest.toObject env.withoutFinalizer)).2.find? k = c₁.find? k := by
  have hkey : (Call.addressOf Kind.environment.resource (Manifest.toObject env.withoutFinalizer)).key = keyOf s :=
    key_withFinalizers env.unmarking hk hstored
  refine find?_perform_of_ne ⟨0, 0⟩ c₁ (.replace _ (Manifest.toObject env.withoutFinalizer)) ?_
  exact hkey.symm ▸ hne

section Stored

variable (hk : c.Kept) (hk' : c'.Kept) (hcalm : c.faults = []) (hcalm' : c'.faults = [])
  (hothers : ∀ k, k ≠ keyOf s → c'.find? k = c.find? k) (hstored : Stored c (keyOf s) o env)
  (hstored' : Stored c' (keyOf s) o' (env.withPassword password))

include hk hk' hcalm hcalm' hothers hstored hstored'

theorem endAlike_of_live (now : Instant) (hname : env.metadata.name = some s.name)
    (hlive : env.metadata.deletionTimestamp.isSome = false) :
    EndAlike (keyOf s) (passwordKey s.namespace s.name) c c' ((work env s now).run (answerer now) c)
      ((work (env.withPassword password) s now).run (answerer now) c') := by
  obtain ⟨c₁, hcalm₁, hothers₁, hforeseen⟩ := (work_foreseen now hk hcalm hstored hname hlive).run
  obtain ⟨c₁', hcalm₁', hothers₁', hforeseen'⟩ := (work_foreseen now hk' hcalm' hstored' hname hlive).run
  -- The agendas are compared once the finalizers are on: no other entry has changed by then.
  have hbegun : ∀ k, k ≠ keyOf s → c₁'.find? k = c₁.find? k := fun k hne =>
    (hothers₁' k hne).trans ((hothers k hne).trans (hothers₁ k hne).symm)
  obtain ⟨hresult, hleft⟩ := hforeseen.parallel hforeseen' (agenda_parallel env.spec password hcalm₁ hcalm₁' hbegun)
    hbegun
  refine ⟨hresult, fun k hown hsecret => ?_⟩
  have herased := hleft k hown hsecret
  rw [erased, erased, hothers₁ k hown, hothers₁' k hown] at herased
  exact herased

theorem endAlike_of_terminating (settings : Settings) (now : Instant)
    (hterminating : env.metadata.deletionTimestamp.isSome = true) (hmarked : env.hasFinalizer = true)
    (hscope : Scope.ofEnvironment env settings.domainSuffix = .ok s) :
    EndAlike (keyOf s) (passwordKey s.namespace s.name) c c'
      ((run settings now s.namespace s.name).run (answerer now) c)
      ((run settings now s.namespace s.name).run (answerer now) c') := by
  rw [run_undisturbed settings now hk hcalm hstored hterminating hmarked hscope rfl,
    run_undisturbed settings now hk' hcalm' hstored' hterminating hmarked hscope rfl]
  refine ⟨rfl, fun k hown _ => ?_⟩
  have hakin : Akin (keyOf s) c c' := fun k hne => congrArg (Option.map Object.unversioned) (hothers k hne)
  have hmanaged : ∀ a ∈ Teardown.managedObjects s, a.key ≠ keyOf s := fun a ha =>
    ne_keyOf (Teardown.kind_of_mem_managedObjects ha) s
  have hswept := hakin.sweep now hmanaged k hown
  rw [erased, erased, find?_replace_withoutFinalizer hk hstored hown, find?_replace_withoutFinalizer hk' hstored' hown,
    hothers k hown]
  have herased := congrArg (Option.map (Object.erased (c.find? k))) hswept
  simpa only [Option.map_map, Function.comp_def, Object.erased_unversioned] using herased

theorem endAlike_of_scope (settings : Settings) (now : Instant)
    (hscope : Scope.ofEnvironment env settings.domainSuffix = .ok s) :
    EndAlike (keyOf s) (passwordKey s.namespace s.name) c c'
      ((run settings now s.namespace s.name).run (answerer now) c)
      ((run settings now s.namespace s.name).run (answerer now) c') := by
  have hrun := run_of_stored settings now hcalm hstored hscope
  have hrun' := run_of_stored settings now hcalm' hstored' hscope
  cases hdeletion : env.metadata.deletionTimestamp.isSome with
  | false =>
      rw [hrun, hrun']
      exact endAlike_of_live hk hk' hcalm hcalm' hothers hstored hstored' now (scope_namespace hscope).1 hdeletion
  | true =>
      cases hmarked : env.hasFinalizer with
      | true =>
          exact endAlike_of_terminating hk hk' hcalm hcalm' hothers hstored hstored' settings now hdeletion hmarked
            hscope
      | false =>
          have hgone : work env s now = .done .gone := work_of_released hdeletion hmarked
          have hgone' : work (env.withPassword password) s now = .done .gone := work_of_released hdeletion hmarked
          rw [hrun, hrun', hgone, hgone']
          exact endAlike_idle hothers (.ok .gone)

end Stored

/-- The text of the password shows nowhere but in the environment that states it and in the Secret that holds it:
passes for environments with different passwords end alike, down to the errors, and leave the same under all other
keys, but for versions and the identities of new objects. -/
theorem run_conceals_password (settings : Settings) (now : Instant) (ns name : String) (h : Reachable c)
    (h' : Reachable c') (hcalm : c.faults = []) (hcalm' : c'.faults = [])
    (hothers : ∀ k, k ≠ (Environment.address (some ns) name).key → c'.find? k = c.find? k)
    (hfind : c.find? (Environment.address (some ns) name).key = some o)
    (hfind' : c'.find? (Environment.address (some ns) name).key = some o') (hapart : o.PasswordApart o') :
    EndAlike (Environment.address (some ns) name).key (passwordKey ns name) c c'
      ((run settings now ns name).run (answerer now) c) ((run settings now ns name).run (answerer now) c') := by
  obtain ⟨password, hapart⟩ := Environment.ofObject_apart hapart
  have hrun := run_of_found settings now hcalm hfind
  have hrun' := run_of_found settings now hcalm' hfind'
  cases hread : (Manifest.ofObject o : Decoded Environment) with
  | error e =>
      rw [hrun, hrun', Object.typed, Object.typed, hapart, hread]
      exact endAlike_idle hothers _
  | ok env =>
      have hread' : Manifest.ofObject o' = .ok (env.withPassword password) := by
        rw [hapart, hread]
        rfl
      cases hscope : Scope.ofEnvironment env settings.domainSuffix with
      | error member =>
          have hscope' : Scope.ofEnvironment (env.withPassword password) settings.domainSuffix = .error member :=
            hscope
          rw [hrun, hrun', typed_of_ok hread, typed_of_ok hread']
          dsimp only
          rw [hscope, hscope']
          exact endAlike_idle hothers _
      | ok s =>
          obtain ⟨rfl, rfl⟩ := scope_of_stored h.kept ⟨hfind, hread⟩ hscope
          exact endAlike_of_scope h.kept h'.kept hcalm hcalm' hothers ⟨hfind, hread⟩ ⟨hfind', hread'⟩ settings now hscope

def lockedSubmission (password : String) : Object where
  types := none
  metadata := (submission (some "alice") []).metadata
  data := .obj
    [("spec", .obj [("ide", .arr [.str "vscode", .arr [], .obj [], .str password]), ("language", .str "go")])]
  unreserved := .of_keys (by simp [Object.reserved])

def lockedCluster (password : String) : Cluster :=
  (answer midnight {} (.create Kind.environment.resource (lockedSubmission password))).2

theorem lockedSubmission_apart (password password' : String) :
    (({} : Cluster).admitted (lockedSubmission password)).PasswordApart
      (({} : Cluster).admitted (lockedSubmission password')) where
  types := rfl
  metadata := rfl
  data := by
    refine ⟨.key "ide", by decide, .index 3, by decide, ?_⟩
    refine .member rfl rfl (fun other hne => ?_) (.member rfl rfl (fun other hne => ?_) ?_)
    · simp [hne]
    · simp [hne]
    · exact .item (n := 3) (j := .str password) rfl (.text password password')

def lockedPass (password : String) : Except PassError PassOutcome × Cluster :=
  (run {} midnight "team" "alice").run (answerer midnight) (lockedCluster password)

theorem run_conceals_password_locked :
    (lockedPass "hunter2").1 = .ok .converged ∧
      ((lockedPass "hunter2").2.find? (passwordKey "team" "alice")).map Object.data =
        some (.obj [("data", .obj [("password", .str "aHVudGVyMg==")])]) ∧
      ((lockedPass "swordfish").2.find? (passwordKey "team" "alice")).map Object.data =
        some (.obj [("data", .obj [("password", .str "c3dvcmRmaXNo")])]) ∧
      EndAlike (Environment.address (some "team") "alice").key (passwordKey "team" "alice") (lockedCluster "hunter2")
        (lockedCluster "swordfish") (lockedPass "hunter2") (lockedPass "swordfish") := by
  have hothers (password : String) {k : Key} (hne : k ≠ (Environment.address (some "team") "alice").key) :
      (lockedCluster password).find? k = none := find?_answer_of_ne midnight {} _ hne
  refine ⟨by with_unfolding_all rfl, by with_unfolding_all rfl, by with_unfolding_all rfl, ?_⟩
  exact run_conceals_password {} midnight "team" "alice" (.answer _ _ .empty) (.answer _ _ .empty) rfl rfl
    (fun k hne => (hothers _ hne).trans (hothers _ hne).symm) (by with_unfolding_all rfl) (by with_unfolding_all rfl)
    (lockedSubmission_apart "hunter2" "swordfish")

end Secrecy

end Pass

end EnvironmentOperator
