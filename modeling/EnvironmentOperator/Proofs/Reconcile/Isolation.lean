import EnvironmentOperator.Proofs.Reconcile.Frame

namespace EnvironmentOperator

open Cluster Environment

namespace Teardown

def dedicated (s : Scope) : Address := .ofKind .namespace none (Names.dedicatedNamespace s.name)

def issuerOf (s : Scope) : Address := .ofKind .issuer (some s.namespace) Names.issuer

def tails (suffix : String) : Kind → List String
  | .deployment | .service => ["-vscode-server", "-database"]
  | .claim => ["-vscode-workspace", "-db-pvc"]
  | .secret => ["-vscode-password"]
  | .ingress => ["-vscode-ingress"]
  | .configMap => ["-dev-tools-scripts"]
  | .certificate => ["." ++ suffix]
  | .namespace | .issuer | .environment => []

inductive Site (s : Scope) : Address → Prop where
  | dedicated : Site s (dedicated s)
  | issuer : Site s (issuerOf s)
  | own {kind : Kind} {tail : String} : tail ∈ tails s.domainSuffix kind →
      Site s (.ofKind kind (some s.namespace) (s.name ++ tail))

variable {s s' : Scope} {a b : Address}

theorem site_of_mem (h : a ∈ managedObjects s) : Site s a := by
  have hown (kind : Kind) (tail : String) (ht : tail ∈ tails s.domainSuffix kind) :
      Site s (.ofKind kind (some s.namespace) (s.name ++ tail)) := .own ht
  simp only [managedObjects, List.mem_cons, List.not_mem_nil, or_false] at h
  rcases h with rfl | rfl | rfl | rfl | rfl | rfl | rfl | rfl | rfl | rfl | rfl | rfl
  · exact .dedicated
  · exact hown .deployment "-vscode-server" (by simp [tails])
  · exact hown .service "-vscode-server" (by simp [tails])
  · exact hown .secret "-vscode-password" (by simp [tails])
  · exact hown .ingress "-vscode-ingress" (by simp [tails])
  · exact hown .configMap "-dev-tools-scripts" (by simp [tails])
  · exact hown .claim "-vscode-workspace" (by simp [tails])
  · exact .issuer
  · rw [Scope.host, Names.host, String.append_assoc]
    exact hown .certificate ("." ++ s.domainSuffix) (by simp [tails])
  · exact hown .deployment "-database" (by simp [tails])
  · exact hown .service "-database" (by simp [tails])
  · exact hown .claim "-db-pvc" (by simp [tails])

theorem eq_of_append_tails {suffix x y t t' : String} {kind : Kind} (ht : t ∈ tails suffix kind)
    (ht' : t' ∈ tails suffix kind) (h : x ++ t = y ++ t') : x = y := by
  have hlast := congrArg (fun z => z.toList.getLast?) h
  simp only [String.toList_append, List.getLast?_append] at hlast
  -- Two tails of one kind are the same or end in different letters.
  have hsame : t = t' := by
    cases kind
    all_goals
      simp only [tails, List.mem_cons, List.not_mem_nil, or_false] at ht ht'
    case deployment | service | claim =>
      rcases ht with rfl | rfl <;> rcases ht' with rfl | rfl
      · rfl
      · simp at hlast
      · simp at hlast
      · rfl
    all_goals exact ht.trans ht'.symm
  rw [hsame] at h
  exact (String.append_left_inj t').1 h

theorem not_tail_of_key {suffix tail x : String} {kind kind' : Kind} {ns ns' : Option String} {name : String}
    (ht : tail ∈ tails suffix kind) (hnone : tails suffix kind' = [])
    (h : (Address.ofKind kind ns x).key = (Address.ofKind kind' ns' name).key) : False := by
  cases Kind.name_injective (congrArg Key.kind h)
  rw [hnone] at ht
  cases ht

theorem meet (ha : a ∈ managedObjects s) (hb : b ∈ managedObjects s') (hsuffix : s'.domainSuffix = s.domainSuffix)
    (hkey : a.key = b.key) : s'.namespace = s.namespace ∧ s'.name = s.name ∨
      b = dedicated s' ∧ s'.name = s.name ∨ b = issuerOf s' ∧ s'.namespace = s.namespace := by
  cases site_of_mem ha with
  | dedicated =>
      cases site_of_mem hb with
      | dedicated => exact .inr (.inl ⟨rfl, (Names.dedicatedNamespace_inj (congrArg Key.name hkey)).symm⟩)
      | issuer => cases Kind.name_injective (a := .namespace) (b := .issuer) (congrArg Key.kind hkey)
      | own ht => exact (not_tail_of_key ht rfl hkey.symm).elim
  | issuer =>
      cases site_of_mem hb with
      | dedicated => cases Kind.name_injective (a := .issuer) (b := .namespace) (congrArg Key.kind hkey)
      | issuer => exact .inr (.inr ⟨rfl, (Option.some.inj (congrArg Key.namespace hkey)).symm⟩)
      | own ht => exact (not_tail_of_key ht rfl hkey.symm).elim
  | @own kind tail ht =>
      cases site_of_mem hb with
      | dedicated => exact (not_tail_of_key ht rfl hkey).elim
      | issuer => exact (not_tail_of_key ht rfl hkey).elim
      | @own kind' tail' ht' =>
          cases Kind.name_injective (congrArg Key.kind hkey)
          rw [hsuffix] at ht'
          exact .inl ⟨(Option.some.inj (congrArg Key.namespace hkey)).symm,
            (eq_of_append_tails ht ht' (congrArg Key.name hkey)).symm⟩

end Teardown

namespace Pass

open Teardown

variable {settings : Settings} {now : Instant} {ns name : String} {c : Cluster} {s : Scope} {a : Address}

theorem shared_of_managed {uid : String} (hsuffix : s.domainSuffix = settings.domainSuffix)
    (hother : (s.namespace, s.name) ≠ (ns, name)) (ha : a ∈ managedObjects s)
    (h : Managed { passScope settings ns name with uid } a.key) :
    a = dedicated s ∧ s.name = name ∨ a = issuerOf s ∧ s.namespace = ns := by
  obtain ⟨b, hb, hkey⟩ := h
  rcases meet hb ha hsuffix hkey with ⟨hnamespace, hname⟩ | hshared
  · exact absurd (Prod.ext hnamespace hname) hother
  · exact hshared

def Terminating (c : Cluster) (ns name : String) : Prop :=
  ∃ o env, Stored c (Environment.address (some ns) name).key o env ∧
    env.metadata.deletionTimestamp.isSome = true ∧ env.hasFinalizer = true

/-- A pass leaves the objects of every other environment as they are. The exceptions are the issuer of a namespace that
both are in, and the dedicated namespace of environments of one name: it is made where it is missing, and it goes with
the first of them that is torn down. -/
theorem run_isolated (settings : Settings) (now : Instant) (ns name : String) (h : Reachable c)
    (hsuffix : s.domainSuffix = settings.domainSuffix) (hother : (s.namespace, s.name) ≠ (ns, name)) :
    ∀ a ∈ managedObjects s,
      ((run settings now ns name).run (answerer now) c).2.find? a.key = c.find? a.key ∨
        a = issuerOf s ∧ s.namespace = ns ∨
        a = dedicated s ∧ s.name = name ∧ (c.find? a.key = none ∨ Terminating c ns name) := by
  intro a ha
  have hown {s' : Scope} : a.key ≠ keyOf s' := ne_keyOf (kind_of_mem_managedObjects ha) s'
  cases run_course settings now ns name h.kept with
  | idle hsame => exact .inl (hsame a.key)
  | provisions uid hstored hnamed hlive hprovided =>
      by_cases hmanaged : Managed { passScope settings ns name with uid } a.key
      · rcases shared_of_managed hsuffix hother ha hmanaged with ⟨rfl, hname⟩ | hissuer
        · cases hfind : c.find? (dedicated s).key with
          | none => exact .inr (.inr ⟨rfl, hname, .inl rfl⟩)
          | some left =>
              have hlasts := hprovided (dedicated s).key
              rw [hfind] at hlasts
              exact .inl (hlasts.lasts ⟨.namespace, by decide, rfl⟩)
        · exact .inr (.inl hissuer)
      · exact .inl ((hprovided a.key).eq_of_not_owned hown hmanaged)
  | @tearsDown o env uid hstored hnamed hterminating hmarked hcleared =>
      by_cases hmanaged : Managed { passScope settings ns name with uid } a.key
      · rcases shared_of_managed hsuffix hother ha hmanaged with ⟨hdedicated, hname⟩ | hissuer
        · exact .inr (.inr ⟨hdedicated, hname, .inr ⟨o, env, hstored, hterminating, hmarked⟩⟩)
        · exact .inr (.inl hissuer)
      · exact .inl ((hcleared a.key).eq_of_not_owned hown hmanaged)

section Namesakes

def namesake : Object := { submission (some "alice") [] with
  metadata := { (submission (some "alice") []).metadata with «namespace» := some "other" } }

def namesakes : Cluster :=
  let both := (answer midnight (submitted (some "alice") [finalizer]) (.create Kind.environment.resource namesake)).2
  let provisioned := ((run {} midnight "other" "alice").run (answerer midnight) both).2
  (answer midnight provisioned (.delete (Environment.address (some "team") "alice"))).2

def namesakeScope : Scope := ⟨"alice", "other", "uid-2", "developerenv.adityajoshi.online"⟩

theorem reachable_namesakes : Reachable namesakes :=
  .answer _ _ (Reachable.run (.answer _ _ reachable_submitted) _ _)

def namesakeServer : Address := .ofKind .deployment (some "other") (Names.ideServer "alice")

theorem run_isolated_namesakes : (namesakes.find? namesakeServer.key).isSome = true ∧
    ((run {} midnight "team" "alice").run (answerer midnight) namesakes).2.find? namesakeServer.key =
      namesakes.find? namesakeServer.key := by
  refine ⟨by with_unfolding_all rfl, ?_⟩
  have hisolated := run_isolated {} midnight "team" "alice" reachable_namesakes (s := namesakeScope) rfl (by decide)
    namesakeServer (by simp [managedObjects, namesakeScope, namesakeServer])
  rcases hisolated with hsame | ⟨hissuer, -⟩ | ⟨hdedicated, -⟩
  · exact hsame
  · exact absurd hissuer (by decide)
  · exact absurd hdedicated (by decide)

theorem not_isolated_from_namesake : ¬∀ (settings : Settings) (now : Instant) (ns name ns' name' : String) (c : Cluster)
    (o o' : Object) (env env' : Environment) (s' : Scope), Reachable c →
      Stored c (Environment.address (some ns) name).key o env →
      Stored c (Environment.address (some ns') name').key o' env' → (ns', name') ≠ (ns, name) →
      Scope.ofEnvironment env' settings.domainSuffix = .ok s' → ∀ a ∈ managedObjects s', a ≠ issuerOf s' →
        ((run settings now ns name).run (answerer now) c).2.find? a.key = c.find? a.key := by
  intro h
  obtain ⟨o, env, hstored, -⟩ := Stored.of_read? (c := namesakes) (a := Environment.address (some "team") "alice")
    (f := hasFinalizer) (b := true) (by with_unfolding_all rfl)
  obtain ⟨o', env', hstored', hscope⟩ := Stored.of_read? (c := namesakes)
    (a := Environment.address (some "other") "alice")
    (f := fun env => Scope.ofEnvironment env "developerenv.adityajoshi.online") (b := .ok namesakeScope)
    (by with_unfolding_all rfl)
  have hsame := h {} midnight "team" "alice" "other" "alice" namesakes o o' env env' namesakeScope reachable_namesakes
    hstored hstored' (by decide) hscope (dedicated namesakeScope) (by simp [managedObjects, dedicated]) (by decide)
  have hthere : (namesakes.find? (dedicated namesakeScope).key).isSome = true := by
    with_unfolding_all rfl
  have hgone : ((run {} midnight "team" "alice").run (answerer midnight) namesakes).2.find?
      (dedicated namesakeScope).key = none := by
    with_unfolding_all rfl
  rw [← hsame, hgone] at hthere
  cases hthere

end Namesakes

end Pass

end EnvironmentOperator
