import EnvironmentOperator.Proofs.Cluster.Kept
import EnvironmentOperator.Proofs.Environment

namespace EnvironmentOperator

def Cluster.read? (α : Type) [Manifest α] (c : Cluster) (a : Address) : Option α :=
  (c.find? a.key).bind (fun o => (Manifest.ofObject o : Except DecodeError α).toOption)

theorem Cluster.read?_of_find? {α : Type} [Manifest α] {c : Cluster} {a : Address} {o : Object} {x : α}
    (h : c.find? a.key = some o) (hx : Manifest.ofObject o = .ok x) : c.read? α a = some x := by
  simp [read?, h, hx, Except.toOption]

theorem Cluster.find?_of_read? {α : Type} [Manifest α] {c : Cluster} {a : Address} {x : α} (h : c.read? α a = some x) :
    ∃ o, c.find? a.key = some o ∧ Manifest.ofObject o = .ok x := by
  obtain ⟨o, hfind, hread⟩ := Option.bind_eq_some_iff.1 h
  cases hx : (Manifest.ofObject o : Except DecodeError α) with
  | error e =>
      rw [hx] at hread
      cases hread
  | ok y =>
      rw [hx] at hread
      cases hread
      exact ⟨o, hfind, hx⟩

namespace Environment

open Cluster

def Stored (c : Cluster) (k : Key) (o : Object) (env : Environment) : Prop :=
  c.find? k = some o ∧ Manifest.ofObject o = .ok env

theorem Stored.metadata {c : Cluster} {k : Key} {o : Object} {env : Environment} (h : Stored c k o env) :
    env.metadata = o.metadata.exchanged := (ofObject_eq_ok.1 h.2).1

theorem Stored.unique {c : Cluster} {k : Key} {o o' : Object} {env env' : Environment} (h : Stored c k o env)
    (h' : Stored c k o' env') : o' = o ∧ env' = env := by
  cases h.1.symm.trans h'.1
  cases h.2.symm.trans h'.2
  exact ⟨rfl, rfl⟩

theorem Stored.spent {c c' : Cluster} {k : Key} {o : Object} {env : Environment} (h : Stored c k o env)
    (hspent : Spent c c') : Stored c' k o env := ⟨(hspent.find? k).trans h.1, h.2⟩

theorem Stored.of_read? {c : Cluster} {a : Address} {β : Type} {f : Environment → β} {b : β}
    (h : (c.read? Environment a).map f = some b) : ∃ o env, Stored c a.key o env ∧ f env = b := by
  obtain ⟨env, hread, hb⟩ := Option.map_eq_some_iff.1 h
  obtain ⟨o, hstored⟩ := find?_of_read? hread
  exact ⟨o, env, hstored, hb⟩

theorem typed_of_ok {o : Object} {env : Environment} (h : Manifest.ofObject o = .ok env) :
    o.typed Environment = .ok env := by
  rw [Object.typed, h]
  rfl

theorem fetch_along (now : Instant) (c : Cluster) (ns : Option String) (name : String) :
    (fetch ns name).Along (answerer now) (fun call c' => c' = c ∧ call = .get (address ns name)) (fun r c' =>
      match r with
      | .ok env => c' = c ∧ c.Calm (.get (address ns name)) ∧ ∃ o, Stored c (address ns name).key o env
      | .error e => Spent c c' ∧ (e.isNotFound = true → c.find? (address ns name).key = none) ∧
          (c.Calm (.get (address ns name)) → ∀ o env, ¬Stored c (address ns name).key o env)) c := by
  refine Program.along_request_bind.2 ⟨⟨rfl, rfl⟩, ?_⟩
  rcases answer_cases now c (.get (address ns name)) with ⟨hcalm, ha⟩ | ⟨hstruck, e, c', ha, hspent, he⟩
  · simp only [answerer, ha, perform]
    cases hfind : c.find? (address ns name).key with
    | none =>
        rw [get_of_missing hfind]
        refine ⟨Spent.refl c, fun _ => rfl, ?_⟩
        intro _ o env h
        rw [Stored, hfind] at h
        cases h.1
    | some o =>
        rw [get_of_find? hfind]
        simp only [Program.along_ofExcept, Object.typed]
        cases hread : (Manifest.ofObject o : Except DecodeError Environment) with
        | error e =>
            refine ⟨Spent.refl c, fun hmissing => Bool.noConfusion hmissing, ?_⟩
            intro _ o' env h
            rw [Stored, hfind] at h
            obtain ⟨hsome, henv⟩ := h
            cases hsome
            rw [hread] at henv
            cases henv
        | ok env => exact ⟨trivial, hcalm, o, hfind, hread⟩
  · simp only [answerer, ha]
    refine ⟨hspent, ?_, fun h => absurd h hstruck⟩
    intro h
    rw [he.not_notFound] at h
    cases h

def withFinalizers (env : Environment) (finalizers : List String) : Environment :=
  { env with metadata := { env.metadata with finalizers := some finalizers } }

section Write

variable {c : Cluster} {ns : Option String} {name : String} {o : Object} {env : Environment} {finalizers : List String}

def rewritten (c : Cluster) (o : Object) (env : Environment) (finalizers : List String) : Object :=
  c.revised o (carried o (Manifest.toObject (env.withFinalizers finalizers)))

theorem rewritten_finalizers : (rewritten c o env finalizers).metadata.finalizers = some finalizers := rfl

theorem ofObject_rewritten (c : Cluster) (finalizers : List String) (h : Manifest.ofObject o = .ok env) :
    Manifest.ofObject (rewritten c o env finalizers) =
      .ok { env with metadata := (rewritten c o env finalizers).metadata.exchanged } := by
  obtain ⟨-, -, hstatus⟩ := ofObject_eq_ok.1 h
  have hcarried := carried_data o (Manifest.toObject (env.withFinalizers finalizers)) rfl
  refine ofObject_eq_ok.2 ⟨rfl, ?_, ?_⟩
  · have hspec : (rewritten c o env finalizers).data.member? "spec" = some (encode env.spec) := by
      refine (hcarried "spec").trans ?_
      simp [Manifest.toObject, Manifest.data, withFinalizers]
    rw [hspec]
    exact Fields.readGiven_some_encode env.spec
  · have hstored : (rewritten c o env finalizers).data.member? "status" =
        (o.data.member? "status").or (env.status.map encode) := by
      refine (hcarried "status").trans ?_
      simp [Manifest.toObject, Manifest.data, withFinalizers]
    rw [hstored]
    cases hlive : o.data.member? "status" with
    | none => exact Fields.readOptional_map_encode env.status
    | some status =>
        rw [hlive] at hstatus
        exact hstatus

theorem key_withFinalizers (finalizers : List String) (hk : c.Kept) (h : Stored c (address ns name).key o env) :
    (Call.addressOf Kind.environment.resource (Manifest.toObject (env.withFinalizers finalizers))).key =
      (address ns name).key := by
  have hplaced := hk _ _ h.1
  have hname : (Manifest.toObject (env.withFinalizers finalizers)).metadata.nameText = name := by
    show env.metadata.nameText = name
    rw [h.metadata]
    exact hplaced.name
  have hnamespace : (Manifest.toObject (env.withFinalizers finalizers)).metadata.namespace = ns := by
    show env.metadata.namespace = ns
    rw [h.metadata]
    exact hplaced.namespace
  rw [Call.addressOf, hname, hnamespace]
  rfl

theorem replace_withFinalizers (hk : c.Kept) (h : Stored c (address ns name).key o env)
    (hchange : some finalizers ≠ o.metadata.finalizers) :
    c.replace Kind.environment.resource (Manifest.toObject (env.withFinalizers finalizers)) =
      (.ok (rewritten c o env finalizers),
        if isReleased (rewritten c o env finalizers) then c.commit (Dict.without c.objects (address ns name).key)
        else c.commit (Dict.put c.objects (address ns name).key (rewritten c o env finalizers))) := by
  have hkey := key_withFinalizers finalizers hk h
  have hfind : c.find? (Call.addressOf Kind.environment.resource
      (Manifest.toObject (env.withFinalizers finalizers))).key = some o := hkey ▸ h.1
  have hstale : isStale o (Manifest.toObject (env.withFinalizers finalizers)) = false := by
    refine isStale_of_version_eq ?_
    show env.metadata.resourceVersion = _
    rw [h.metadata]
    rfl
  have hdiffers : ¬SameContent (carried o (Manifest.toObject (env.withFinalizers finalizers))) o :=
    fun hsame => hchange (congrArg Metadata.finalizers hsame.1)
  rw [replace_of_find? hfind hstale hdiffers, hkey]
  rfl

end Write

section Mark

variable {c : Cluster} {ns : Option String} {name : String} {o : Object} {env : Environment}

def marking (env : Environment) : List String := env.metadata.finalizerList ++ [finalizer]

def marked (c : Cluster) (o : Object) (env : Environment) : Object := rewritten c o env env.marking

theorem isReleased_marked : isReleased (marked c o env) = false := by
  have hfinalizers : (marked c o env).metadata.hasFinalizers = true := by
    simp [Metadata.hasFinalizers, Metadata.finalizerList, marked, rewritten_finalizers, marking]
  rw [isReleased, hfinalizers]
  simp

theorem marking_ne (h : Stored c (address ns name).key o env) (hunmarked : env.hasFinalizer = false) :
    some env.marking ≠ o.metadata.finalizers := by
  intro he
  have hfinalizers : env.metadata.finalizers = o.metadata.finalizers := by
    rw [h.metadata]
    rfl
  rw [← hfinalizers] at he
  have hmarked : env.hasFinalizer = true := by
    rw [hasFinalizer, Metadata.finalizerList, ← he]
    simp [marking]
  rw [hunmarked] at hmarked
  cases hmarked

def unmarking (env : Environment) : List String := env.metadata.finalizerList.filter (fun f => decide (f ≠ finalizer))

theorem unmarking_ne {k : Key} (h : Stored c k o env) (hmarked : env.hasFinalizer = true) :
    some env.unmarking ≠ o.metadata.finalizers := by
  intro he
  have hsame : env.withoutFinalizer.metadata.finalizers = env.metadata.finalizers := by
    rw [h.metadata]
    exact he
  have hunmarked := hasFinalizer_withoutFinalizer env
  rw [hasFinalizer, Metadata.finalizerList, hsame] at hunmarked
  rw [hasFinalizer, Metadata.finalizerList, hunmarked] at hmarked
  cases hmarked

theorem replace_withFinalizer (hk : c.Kept) (h : Stored c (address ns name).key o env)
    (hunmarked : env.hasFinalizer = false) :
    c.replace Kind.environment.resource (Manifest.toObject env.withFinalizer) =
      (.ok (marked c o env), c.commit (Dict.put c.objects (address ns name).key (marked c o env))) := by
  have hreplace := replace_withFinalizers hk h (marking_ne h hunmarked)
  rw [show rewritten c o env env.marking = marked c o env from rfl, isReleased_marked] at hreplace
  exact hreplace

theorem write_along (now : Instant) (hk : c.Kept) (h : Stored c (address ns name).key o env)
    (hunmarked : env.hasFinalizer = false) :
    env.withFinalizer.write.Along (answerer now)
      (fun call c' => c' = c ∧ call = .replace Kind.environment.resource (Manifest.toObject env.withFinalizer))
      (fun r c' => match r with
        | .ok env' => c' = c.commit (Dict.put c.objects (address ns name).key (marked c o env)) ∧
            env' = { env with metadata := (marked c o env).metadata.exchanged }
        | .error _ => Spent c c' ∧ c.faults ≠ []) c := by
  refine Program.along_request_bind.2 ⟨⟨rfl, rfl⟩, ?_⟩
  rcases answer_cases now c (.replace Kind.environment.resource (Manifest.toObject env.withFinalizer)) with
    ⟨-, ha⟩ | ⟨hstruck, e, c', ha, hspent, -⟩
  · simp only [answerer, ha, perform, replace_withFinalizer hk h hunmarked, Program.along_ofExcept,
      typed_of_ok (ofObject_rewritten c env.marking h.2), marked]
    exact ⟨trivial, trivial⟩
  · simp only [answerer, ha]
    exact ⟨hspent, fun hnil => hstruck (calm_of_nil hnil _)⟩

theorem addFinalizerAnew_along (now : Instant) (hk : c.Kept) (h : Stored c (address ns name).key o env)
    (hname : env.metadata.name = some name) (hunmarked : env.hasFinalizer = false) :
    env.addFinalizerAnew.Along (answerer now)
      (fun call c' => c' = c ∧ (call = .get (address ns name) ∨
        call = .replace Kind.environment.resource (Manifest.toObject env.withFinalizer)))
      (fun r c' => match r with
        | .ok env' => c' = c.commit (Dict.put c.objects (address ns name).key (marked c o env)) ∧
            env' = { env with metadata := (marked c o env).metadata.exchanged }
        | .error _ => Spent c c') c := by
  have haddress : fetch env.metadata.namespace env.metadata.anyName = fetch ns name := by
    have hnamespace : env.metadata.namespace = ns := by
      rw [h.metadata]
      exact (hk _ _ h.1).namespace
    rw [hnamespace, Metadata.anyName, hname]
    rfl
  rw [addFinalizerAnew, haddress]
  refine Program.along_bind.2 ?_
  refine (fetch_along now c ns name).mono (fun _ _ ⟨hc, hcall⟩ => ⟨hc, .inl hcall⟩) ?_
  intro r c' hfetched
  cases r with
  | error e => exact hfetched.1
  | ok latest =>
      obtain ⟨rfl, -, o', hlatest⟩ := hfetched
      rw [(h.unique hlatest).2]
      show Program.Along _ _ _ (if env.hasFinalizer = true then pure env else env.withFinalizer.write) c'
      rw [hunmarked]
      refine (write_along now hk h hunmarked).mono (fun _ _ ⟨hc, hcall⟩ => ⟨hc, .inr hcall⟩) ?_
      intro r c₁ hwritten
      cases r with
      | ok env' => exact hwritten
      | error e => exact hwritten.1

theorem addFinalizer_along (now : Instant) (hk : c.Kept) (h : Stored c (address ns name).key o env)
    (hname : env.metadata.name = some name) (hunmarked : env.hasFinalizer = false) :
    env.addFinalizer.Along (answerer now)
      (fun call c' => Spent c c' ∧ (call = .get (address ns name) ∨
        call = .replace Kind.environment.resource (Manifest.toObject env.withFinalizer)))
      (fun r c' => match r with
        | .ok env' => ∃ c₁, Spent c c₁ ∧
            c' = c₁.commit (Dict.put c₁.objects (address ns name).key (marked c₁ o env)) ∧
            env' = { env with metadata := (marked c₁ o env).metadata.exchanged }
        | .error _ => Spent c c' ∧ c.faults ≠ []) c := by
  refine Program.along_bind.2 (Program.along_result.2 ?_)
  refine (write_along now hk h hunmarked).mono
    (fun _ _ ⟨hc, hcall⟩ => ⟨hc ▸ Spent.refl c, .inr hcall⟩) ?_
  intro r c₁ hwritten
  cases r with
  | ok env' => exact ⟨c, Spent.refl c, hwritten⟩
  | error e =>
      obtain ⟨hspent, hfaults⟩ := hwritten
      show Program.Along _ _ _ (if e.isConflict = true then env.addFinalizerAnew else .fail e) c₁
      split
      · refine (addFinalizerAnew_along now (hk.spent hspent) (h.spent hspent) hname hunmarked).mono
          (fun _ _ ⟨hc, hcall⟩ => ⟨hc ▸ hspent, hcall⟩) ?_
        intro r c₂ hagain
        cases r with
        | ok env' => exact ⟨c₁, hspent, hagain⟩
        | error e => exact ⟨hspent.trans hagain, hfaults⟩
      · exact ⟨hspent, hfaults⟩

end Mark

end Environment

end EnvironmentOperator
