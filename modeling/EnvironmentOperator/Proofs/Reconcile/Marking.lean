import EnvironmentOperator.Proofs.Cluster.Scene
import EnvironmentOperator.Proofs.Reconcile.Overtaken

namespace EnvironmentOperator

open Cluster

namespace Environment

variable {env latest : Environment} {course : List Exchange} {r : Except StoreError Environment}

def received (answer : Except StoreError Object) : Except StoreError Environment :=
  answer.bind (·.typed Environment)

/-- The error that an answer is taken for: its own, or that of an object that is no environment. -/
def failure? : Exchange → Option StoreError
  | ⟨.replace _ _, answer⟩ | ⟨.get _, answer⟩ => Scenario.errorOf (received answer)
  | _ => none

def writing (env : Environment) (answer : Except StoreError Object) : Exchange :=
  ⟨.replace Kind.environment.resource (Manifest.toObject env), answer⟩

def looking (env : Environment) (answer : Except StoreError Object) : Exchange :=
  ⟨.get (address env.metadata.namespace env.metadata.anyName), answer⟩

section Courses

/-- The courses that the adding of the finalizer can take, each with its end. -/
inductive Marking (env : Environment) : List Exchange → Except StoreError Environment → Prop where
  | settled {answer : Except StoreError Object} : (∀ e, received answer = .error e → e.isConflict = false) →
      Marking env [env.withFinalizer.writing answer] (received answer)
  | lost {e e' : StoreError} {answer : Except StoreError Object} : e.isConflict = true →
      received answer = .error e' → Marking env [env.withFinalizer.writing (.error e), env.looking answer] (.error e')
  | found {e : StoreError} {answer : Except StoreError Object} {latest : Environment} : e.isConflict = true →
      received answer = .ok latest → latest.hasFinalizer = true →
      Marking env [env.withFinalizer.writing (.error e), env.looking answer] (.ok latest)
  | again {e : StoreError} {answer answer' : Except StoreError Object} {latest : Environment} :
      e.isConflict = true → received answer = .ok latest → latest.hasFinalizer = false →
      Marking env [env.withFinalizer.writing (.error e), env.looking answer, latest.withFinalizer.writing answer']
        (received answer')

theorem ends_request {call : Call} {f : call.Answer → Except StoreError Environment}
    (h : (Program.bind (Program.request call) fun a => Program.ofExcept (f a)).Ends course r) :
    ∃ answer : Except StoreError call.Answer, course = [⟨call, answer⟩] ∧ r = answer.bind f := by
  obtain ⟨answer, rest, rfl, h⟩ := h
  refine ⟨answer, ?_⟩
  cases answer with
  | error e =>
      obtain ⟨rfl, rfl⟩ := h
      exact ⟨rfl, rfl⟩
  | ok a =>
      obtain ⟨rfl, rfl⟩ := Program.ends_ofExcept.1 h
      exact ⟨rfl, rfl⟩

theorem ends_write (h : env.write.Ends course r) : ∃ answer, course = [env.writing answer] ∧ r = received answer :=
  ends_request h

theorem ends_fetch {ns : Option String} {name : String} (h : (fetch ns name).Ends course r) :
    ∃ answer, course = [⟨.get (address ns name), answer⟩] ∧ r = received answer := ends_request h

theorem conflict_of_received {answer : Except StoreError Object} {e : StoreError} (h : received answer = .error e)
    (he : e.isConflict = true) : answer = .error e := by
  cases answer with
  | error e' =>
      cases h
      rfl
  | ok o =>
      simp only [received, Except.bind, Object.typed] at h
      cases hread : (Manifest.ofObject o : Except DecodeError Environment) with
      | error cause =>
          rw [hread] at h
          cases h
          cases he
      | ok env =>
          rw [hread] at h
          cases h

theorem marking_of_conflict {e : StoreError} (he : e.isConflict = true) (h : env.addFinalizerAnew.Ends course r) :
    env.Marking (env.withFinalizer.writing (.error e) :: course) r := by
  rcases Program.ends_bind h with ⟨e', hfetch, rfl⟩ | ⟨latest, looked, rest, rfl, hfetch, hrest⟩
  · obtain ⟨answer, rfl, hreceived⟩ := ends_fetch hfetch
    exact .lost he hreceived.symm
  · obtain ⟨answer, rfl, hreceived⟩ := ends_fetch hfetch
    split at hrest
    · rename_i hmarked
      obtain ⟨rfl, rfl⟩ := hrest
      exact .found he hreceived.symm hmarked
    · rename_i hunmarked
      obtain ⟨answer', rfl, rfl⟩ := ends_write hrest
      exact .again he hreceived.symm (by simpa using hunmarked)

theorem marking_of_ends (h : env.addFinalizer.Ends course r) : env.Marking course r := by
  rcases Program.ends_bind h with ⟨e, hwrite, -⟩ | ⟨written, before, rest, rfl, hwrite, hrest⟩
  · obtain ⟨r', -, hr'⟩ := Program.ends_result.1 hwrite
    cases hr'
  · obtain ⟨r', hends, hr'⟩ := Program.ends_result.1 hwrite
    cases hr'
    obtain ⟨answer, rfl, rfl⟩ := ends_write hends
    cases hwritten : received answer with
    | ok env' =>
        rw [hwritten] at hrest
        obtain ⟨rfl, rfl⟩ := hrest
        rw [List.append_nil, ← hwritten]
        exact .settled fun e he => by rw [hwritten] at he; cases he
    | error e =>
        rw [hwritten] at hrest
        dsimp only at hrest
        split at hrest
        · rename_i hconflict
          cases conflict_of_received hwritten hconflict
          exact marking_of_conflict hconflict hrest
        · rename_i hother
          obtain ⟨rfl, rfl⟩ := hrest
          rw [List.append_nil, ← hwritten]
          refine .settled fun e' he' => ?_
          cases hwritten.symm.trans he'
          simpa using hother

end Courses

section Sent

def exchanged (env : Environment) : Environment := { env with metadata := env.metadata.exchanged }

theorem exchanged_of_received {answer : Except StoreError Object} (h : received answer = .ok env) :
    env.exchanged = env := by
  cases answer with
  | error e => cases h
  | ok o =>
      simp only [received, Except.bind, Object.typed] at h
      cases hread : (Manifest.ofObject o : Except DecodeError Environment) with
      | error cause =>
          rw [hread] at h
          cases h
      | ok env' =>
          rw [hread] at h
          cases h
          have hmetadata := (ofObject_eq_ok.1 hread).1
          rw [exchanged, hmetadata, Metadata.exchanged_exchanged, ← hmetadata]

theorem typed_withFinalizers (env : Environment) (finalizers : List String) :
    (Manifest.toObject (env.withFinalizers finalizers)).typed Environment =
      .ok (env.exchanged.withFinalizers finalizers) := by
  have hmetadata := Metadata.exchanged_exchanged (env.withFinalizers finalizers).metadata
  refine typed_of_ok (ofObject_eq_ok.2 ⟨hmetadata.symm, ?_, ?_⟩)
  · have hspec : (Manifest.toObject (env.withFinalizers finalizers)).data.member? "spec" = some (encode env.spec) := by
      simp [Manifest.toObject, Manifest.data, withFinalizers]
    rw [hspec]
    exact Fields.readGiven_some_encode env.spec
  · have hstatus : (Manifest.toObject (env.withFinalizers finalizers)).data.member? "status" =
        env.status.map encode := by
      simp [Manifest.toObject, Manifest.data, withFinalizers]
    rw [hstatus]
    exact Fields.readOptional_map_encode env.status

structure Sends (x : Exchange) (base : Environment) (finalizers : List String) : Prop where
  call : x.call = .replace Kind.environment.resource (Manifest.toObject (base.withFinalizers finalizers))
  typed : (Manifest.toObject (base.withFinalizers finalizers)).typed Environment =
    .ok (base.exchanged.withFinalizers finalizers)

theorem sends_writing (env : Environment) (finalizers : List String) (answer : Except StoreError Object) :
    Sends ((env.withFinalizers finalizers).writing answer) env finalizers :=
  ⟨rfl, typed_withFinalizers env finalizers⟩

def Overruled (env : Environment) (course : List Exchange) (latest : Environment) : Prop :=
  ∃ e answer, course = [env.withFinalizer.writing (.error e), env.looking answer] ∧ e.isConflict = true ∧
    received answer = .ok latest

structure Retried (env : Environment) (course : List Exchange) (r : Except StoreError Environment) : Prop where
  replaces : course.countP (fun x => decide (x.call.verb = .replace)) ≤ 2
  looks : course.countP (fun x => decide (x.call.verb = .get)) ≤ 1
  calls : ∀ x ∈ course, x.call.verb = .replace ∨ x.call.verb = .get
  sends : ∀ i x, course[i]? = some x → x.call.verb = .replace →
    i = 0 ∧ Sends x env (env.metadata.finalizerList ++ [finalizer]) ∨
      i = 2 ∧ ∃ latest, env.Overruled (course.take 2) latest ∧ latest.hasFinalizer = false ∧
        latest.exchanged = latest ∧ Sends x latest (latest.metadata.finalizerList ++ [finalizer])
  errors : ∀ i x e, course[i]? = some x → failure? x = some e →
    i = 0 ∧ e.isConflict = true ∧ 1 < course.length ∨ i + 1 = course.length ∧ r = .error e

theorem Marking.sends (h : env.Marking course r) {i : Nat} {x : Exchange} (hx : course[i]? = some x)
    (hverb : x.call.verb = .replace) :
    i = 0 ∧ Sends x env (env.metadata.finalizerList ++ [finalizer]) ∨
      i = 2 ∧ ∃ latest, env.Overruled (course.take 2) latest ∧ latest.hasFinalizer = false ∧
        latest.exchanged = latest ∧ Sends x latest (latest.metadata.finalizerList ++ [finalizer]) := by
  have hfirst (answer : Except StoreError Object) :
      Sends (env.withFinalizer.writing answer) env (env.metadata.finalizerList ++ [finalizer]) :=
    sends_writing env env.marking answer
  cases h with
  | settled =>
      obtain _ | i := i <;> cases hx
      exact .inl ⟨rfl, hfirst _⟩
  | lost | found =>
      obtain _ | _ | i := i <;> cases hx
      · exact .inl ⟨rfl, hfirst _⟩
      · cases hverb
  | again hconflict hreceived hunmarked =>
      obtain _ | _ | _ | i := i <;> cases hx
      · exact .inl ⟨rfl, hfirst _⟩
      · cases hverb
      · exact .inr ⟨rfl, _, ⟨_, _, rfl, hconflict, hreceived⟩, hunmarked, exchanged_of_received hreceived,
          sends_writing _ _ _⟩

theorem Marking.errors (h : env.Marking course r) {i : Nat} {x : Exchange} {e : StoreError}
    (hx : course[i]? = some x) (he : failure? x = some e) :
    i = 0 ∧ e.isConflict = true ∧ 1 < course.length ∨ i + 1 = course.length ∧ r = .error e := by
  have hread {answer : Except StoreError Object} (h : Scenario.errorOf (received answer) = some e) :
      received answer = .error e := by
    cases hreceived : received answer with
    | ok env' =>
        rw [hreceived] at h
        cases h
    | error e' =>
        rw [hreceived] at h
        cases h
        rfl
  cases h with
  | settled =>
      obtain _ | i := i <;> cases hx
      exact .inr ⟨rfl, hread he⟩
  | lost hconflict hlost =>
      obtain _ | _ | i := i <;> cases hx
      · cases he
        exact .inl ⟨rfl, hconflict, by simp⟩
      · exact .inr ⟨rfl, hlost.symm.trans (hread he)⟩
  | found hconflict hfound =>
      obtain _ | _ | i := i <;> cases hx
      · cases he
        exact .inl ⟨rfl, hconflict, by simp⟩
      · exact .inr ⟨rfl, hfound.symm.trans (hread he)⟩
  | again hconflict hfound =>
      obtain _ | _ | _ | i := i <;> cases hx
      · cases he
        exact .inl ⟨rfl, hconflict, by simp⟩
      · cases hfound.symm.trans (hread he)
      · exact .inr ⟨rfl, hread he⟩

theorem Marking.retried (h : env.Marking course r) : env.Retried course r := by
  refine ⟨?_, ?_, ?_, fun _ _ => h.sends, fun _ _ _ => h.errors⟩ <;> cases h <;> simp [writing, looking, Call.verb]

theorem ends_removeFinalizer {r : Except StoreError Unit} (h : env.removeFinalizer.Ends course r) :
    ∃ answer, course = [env.withoutFinalizer.writing answer] ∧
      Sends (env.withoutFinalizer.writing answer) env
        (env.metadata.finalizerList.filter (fun f => decide (f ≠ finalizer))) ∧
      r = answer.map fun _ => () := by
  obtain ⟨answer, rest, rfl, h⟩ := h
  change Except StoreError Object at answer
  refine ⟨answer, ?_, sends_writing env env.unmarking answer, ?_⟩
  · cases answer <;> exact congrArg _ h.1
  · cases answer <;> exact h.2

end Sent

section Accepted

variable {c : Cluster} {now : Instant} {ns : Option String} {name : String} {o written : Object}
  {finalizers : List String}

theorem isReleased_rewritten :
    isReleased (rewritten c o env finalizers) = (o.metadata.deletionTimestamp.isSome && finalizers.isEmpty) := by
  simp only [isReleased, Metadata.hasFinalizers, Metadata.finalizerList, rewritten_finalizers, Option.getD_some,
    Bool.not_not]
  rfl

structure Accepted (k : Key) (o : Object) (finalizers : List String) (written : Object) (c' : Cluster) : Prop where
  held : written.metadata.finalizers = some finalizers
  readable : ∃ env' : Environment, Manifest.ofObject written = .ok env'
  left : c'.find? k = if o.metadata.deletionTimestamp.isSome && finalizers.isEmpty then none else some written

theorem accepted_rewritten {k : Key} (h : Stored c k o env) :
    Accepted k o finalizers (rewritten c o env finalizers)
      (if isReleased (rewritten c o env finalizers) then c.commit (Dict.without c.objects k)
        else c.commit (Dict.put c.objects k (rewritten c o env finalizers))) := by
  refine ⟨rfl, ⟨_, ofObject_rewritten c finalizers h.2⟩, ?_⟩
  rw [isReleased_rewritten]
  split
  · exact find?_without_self ..
  · exact find?_put_self ..

theorem accepted_self {k : Key} (hk : c.Kept) (h : Stored c k o env)
    (hsame : some finalizers = o.metadata.finalizers) : Accepted k o finalizers o c := by
  refine ⟨hsame.symm, ⟨env, h.2⟩, ?_⟩
  have hfalse : (o.metadata.deletionTimestamp.isSome && finalizers.isEmpty) = false := by
    have hreleased := (hk _ _ h.1).released
    rw [isReleased, Metadata.hasFinalizers, Metadata.finalizerList, ← hsame] at hreleased
    simpa using hreleased
  rw [hfalse]
  exact h.1

theorem accepted_of_ok (hk : c.Kept) (h : Stored c (address ns name).key o env)
    (hwritten : (c.answer now
      (.replace Kind.environment.resource (Manifest.toObject (env.withFinalizers finalizers)))).1 = .ok written) :
    Accepted (address ns name).key o finalizers written
      (c.answer now (.replace Kind.environment.resource (Manifest.toObject (env.withFinalizers finalizers)))).2 := by
  rw [answer_of_ok hwritten, perform]
  rw [answer_of_ok hwritten, perform] at hwritten
  by_cases hchange : some finalizers = o.metadata.finalizers
  · have hkey := key_withFinalizers finalizers hk h
    rcases replace_cases c Kind.environment.resource (Manifest.toObject (env.withFinalizers finalizers)) with
      ⟨e, he⟩ | ⟨current, hcurrent, -, he | he⟩
    · rw [he] at hwritten
      cases hwritten
    · rw [he] at hwritten ⊢
      cases hwritten
      rw [hkey] at hcurrent
      cases h.1.symm.trans hcurrent
      exact accepted_self hk h hchange
    · rw [he] at hwritten ⊢
      cases hwritten
      rw [hkey] at hcurrent ⊢
      cases h.1.symm.trans hcurrent
      exact accepted_rewritten h
  · rw [replace_withFinalizers hk h hchange] at hwritten ⊢
    cases hwritten
    exact accepted_rewritten h

end Accepted

end Environment

namespace Contested

open Environment

variable {σ : Type} {w : Contested σ} {s : σ} {seen : Cluster} {ns : Option String} {name : String} {k : Key}
  {o : Object} {env : Environment}

theorem accepted_answer (finalizers : List String) (hk : seen.Kept)
    (hstored : Stored seen (Environment.address ns name).key o env) (hmoves : Moves seen (w.cluster s))
    {written : Object}
    (hwritten : (w.answer
      (.replace Kind.environment.resource (Manifest.toObject (env.withFinalizers finalizers))) s).1 = .ok written) :
    Accepted (Environment.address ns name).key o finalizers written (w.cluster
      (w.answer (.replace Kind.environment.resource (Manifest.toObject (env.withFinalizers finalizers))) s).2) := by
  have hlive := (careful_withFinalizers finalizers hk hstored hmoves).accepted written hwritten
  rw [key_withFinalizers finalizers hk hstored] at hlive
  have hkmoment := (w.moves (.replace Kind.environment.resource
    (Manifest.toObject (env.withFinalizers finalizers))) s).kept (hmoves.kept hk)
  rw [w.answer_fst] at hwritten
  rw [w.answer_snd]
  exact accepted_of_ok hkmoment ⟨hlive, hstored.2⟩ hwritten

def Holds (w : Contested σ) (k : Key) (r : Except StoreError Environment) (s : σ) : Prop :=
  ∀ env, r = .ok env → env.hasFinalizer = true ∧ ∃ o, Stored (w.cluster s) k o env

theorem holds_ok : w.Holds k (.ok env) s ↔ env.hasFinalizer = true ∧ ∃ o, Stored (w.cluster s) k o env :=
  ⟨fun h => h env rfl, fun h _ he => by cases he; exact h⟩

theorem holds_error (e : StoreError) : w.Holds k (.error e) s := fun _ he => by cases he

theorem write_holds (hk : seen.Kept) (hstored : Stored seen (Environment.address ns name).key o env)
    (hmoves : Moves seen (w.cluster s)) :
    env.withFinalizer.write.Along w.toAnswerer (fun _ _ => True)
      (fun r s' => w.Holds (Environment.address ns name).key r s' ∧ (w.cluster s').Kept) s := by
  have hk₁ := kept_answer (hmoves.kept hk) (.replace Kind.environment.resource (Manifest.toObject env.withFinalizer))
  refine Program.along_request_bind.2 ⟨trivial, ?_⟩
  split
  · rename_i written hwritten
    obtain ⟨hheld, ⟨env', hread⟩, hleft⟩ := accepted_answer env.marking hk hstored hmoves hwritten
    rw [Program.along_ofExcept, typed_of_ok hread, holds_ok]
    have hmarked : env'.hasFinalizer = true := by
      rw [hasFinalizer, Metadata.finalizerList, (ofObject_eq_ok.1 hread).1]
      simp [Metadata.exchanged, hheld, marking]
    -- With one finalizer at least, it has not been released.
    have hempty : env.marking.isEmpty = false := by simp [marking]
    rw [hempty, Bool.and_false] at hleft
    exact ⟨⟨hmarked, written, hleft, hread⟩, hk₁⟩
  · exact ⟨holds_error _, hk₁⟩

theorem addFinalizerAnew_holds (env : Environment) (hk : (w.cluster s).Kept) :
    env.addFinalizerAnew.Along w.toAnswerer (fun _ _ => True)
      (w.Holds (Environment.address env.metadata.namespace env.metadata.anyName).key) s := by
  refine Program.along_bind.2 (Program.along_request_bind.2 ⟨trivial, ?_⟩)
  split
  · rename_i live hlive
    have hfound : w.Read _ _ live := ⟨_, s, rfl, Prod.ext hlive rfl⟩
    have hk₁ := kept_answer hk (.get (Environment.address env.metadata.namespace env.metadata.anyName))
    refine Program.along_ofExcept.2 ?_
    cases hlatest : (Manifest.ofObject live : Except DecodeError Environment) with
    | error e =>
        simp only [Object.typed, hlatest, Except.mapError]
        exact holds_error _
    | ok latest =>
        rw [typed_of_ok hlatest]
        dsimp only
        split
        · rename_i hmarked
          exact holds_ok.2 ⟨hmarked, live, hfound.find?, hlatest⟩
        · exact (write_holds hk₁ ⟨hfound.find?, hlatest⟩ .refl).mono (fun _ _ h => h) fun _ _ h => h.1
  · exact holds_error _

theorem address_anyName (hk : seen.Kept) (hstored : Stored seen (Environment.address ns name).key o env) :
    env.metadata.namespace = ns ∧ (env.metadata.name = some name ∨ env.metadata.name = none ∧ name = "") := by
  have hplaced := hk _ _ hstored.1
  have hname : env.metadata.nameText = name := by
    rw [hstored.metadata]
    exact hplaced.name
  refine ⟨by rw [hstored.metadata]; exact hplaced.namespace, ?_⟩
  cases hgiven : env.metadata.name with
  | some n =>
      rw [Metadata.nameText, hgiven] at hname
      exact .inl (congrArg some hname)
  | none =>
      rw [Metadata.nameText, hgiven] at hname
      exact .inr ⟨rfl, hname.symm⟩

theorem addFinalizer_holds (hk : seen.Kept) (hstored : Stored seen (Environment.address ns name).key o env)
    (hmoves : Moves seen (w.cluster s)) :
    env.addFinalizer.Along w.toAnswerer (fun _ _ => True)
      (fun r s' => w.Holds (Environment.address ns name).key r s' ∨ env.metadata.name = none ∧
        w.Holds (Environment.address ns (env.metadata.generateName.getD "")).key r s') s := by
  refine Program.along_bind.2 (Program.along_result.2 ?_)
  refine (write_holds hk hstored hmoves).mono (fun _ _ _ => trivial) ?_
  rintro r s₁ ⟨hholds, hk₁⟩
  cases r with
  | ok written => exact .inl hholds
  | error e =>
      dsimp only
      split
      · refine (addFinalizerAnew_holds env hk₁).mono (fun _ _ h => h) ?_
        intro r s' hagain
        obtain ⟨hnamespace, hname | ⟨hname, -⟩⟩ := address_anyName hk hstored
        · rw [hnamespace, Metadata.anyName, hname] at hagain
          exact .inl hagain
        · rw [hnamespace, Metadata.anyName, hname] at hagain
          exact .inr ⟨hname, hagain⟩
      · exact .inl (holds_error e)

def Lacks (w : Contested σ) (k : Key) (env : Environment) (s : σ) : Prop :=
  if env.metadata.deletionTimestamp.isSome ∧ ∀ f ∈ env.metadata.finalizerList, f = finalizer then
    (w.cluster s).find? k = none
  else ∃ o env', Stored (w.cluster s) k o env' ∧ env'.hasFinalizer = false

theorem removeFinalizer_lacks (hk : seen.Kept) (hstored : Stored seen (Environment.address ns name).key o env)
    (hmoves : Moves seen (w.cluster s)) :
    env.removeFinalizer.Along w.toAnswerer (fun _ _ => True)
      (fun r s' => r = .ok () → w.Lacks (Environment.address ns name).key env s') s := by
  refine Program.along_request_bind.2 ⟨trivial, ?_⟩
  split
  · rename_i written hwritten
    rintro -
    obtain ⟨hheld, ⟨env', hread⟩, hleft⟩ := accepted_answer env.unmarking hk hstored hmoves hwritten
    have hmarked : o.metadata.deletionTimestamp.isSome = env.metadata.deletionTimestamp.isSome := by
      rw [hstored.metadata]
      exact Option.isSome_map.symm
    have hempty : env.unmarking.isEmpty = true ↔ ∀ f ∈ env.metadata.finalizerList, f = finalizer := by
      simp [unmarking]
    rw [hmarked] at hleft
    unfold Lacks
    split
    · rename_i hlast
      rw [hlast.1, hempty.2 hlast.2] at hleft
      exact hleft
    · rename_i hnot
      have hstays : ¬(env.metadata.deletionTimestamp.isSome && env.unmarking.isEmpty) = true := by
        rw [Bool.and_eq_true, hempty]
        exact hnot
      rw [if_neg hstays] at hleft
      have hunmarked : env'.hasFinalizer = false := by
        rw [hasFinalizer, Metadata.finalizerList, (ofObject_eq_ok.1 hread).1]
        simp [Metadata.exchanged, hheld, unmarking]
      exact ⟨written, env', ⟨hleft, hread⟩, hunmarked⟩
  · rintro ⟨⟩

/-- An edit of the finalizer changes nothing else, and what it returns is stored where it was read. Only an environment
that has no name is looked up elsewhere after a conflict, under the one that its name was to be generated from. -/
theorem finalizer_edits (w : Contested σ) (s : σ) {seen : Cluster} (h : Reachable seen)
    (hmoves : Moves seen (w.cluster s)) :
    (∀ (env : Environment) course r, env.addFinalizer.Ends course r → env.Retried course r) ∧
      (∀ (env : Environment) course r, env.removeFinalizer.Ends course r → ∃ answer,
        course = [env.withoutFinalizer.writing answer] ∧
        Sends (env.withoutFinalizer.writing answer) env
          (env.metadata.finalizerList.filter (fun f => decide (f ≠ finalizer))) ∧
        r = answer.map fun _ => ()) ∧
      ∀ ns name o env, Stored seen (Environment.address ns name).key o env →
        (∀ env' s', env.addFinalizer.run w.toAnswerer s = (.ok env', s') → env'.hasFinalizer = true ∧
          ∃ name' o', (name' = name ∨ env.metadata.name = none ∧ name' = env.metadata.generateName.getD "") ∧
            Stored (w.cluster s') (Environment.address ns name').key o' env') ∧
        ∀ s', env.removeFinalizer.run w.toAnswerer s = (.ok (), s') →
          w.Lacks (Environment.address ns name).key env s' := by
  refine ⟨fun env course r hends => (marking_of_ends hends).retried,
    fun env course r hends => ends_removeFinalizer hends, ?_⟩
  intro ns name o env hstored
  constructor
  · intro env' s' hrun
    have hholds := (addFinalizer_holds h.kept hstored hmoves).run
    rw [hrun] at hholds
    rcases hholds with hholds | ⟨hname, hholds⟩
    · obtain ⟨hmarked, o', hstored'⟩ := hholds env' rfl
      exact ⟨hmarked, name, o', .inl rfl, hstored'⟩
    · obtain ⟨hmarked, o', hstored'⟩ := hholds env' rfl
      exact ⟨hmarked, _, o', .inr ⟨hname, rfl⟩, hstored'⟩
  · intro s' hrun
    have hlacks := (removeFinalizer_lacks h.kept hstored hmoves).run
    rw [hrun] at hlacks
    exact hlacks rfl

section Pair

open Pass

def alone (now : Instant) : Contested Cluster where
  toAnswerer := answerer now
  cluster c := c
  now _ := now
  moment _ c := c
  moves _ _ := .refl
  answer_fst _ _ := rfl
  answer_snd _ _ := rfl

def pair : Cluster :=
  let both := (answer midnight (submitted (some "alice") ["team/archive"])
    (.create Kind.environment.resource (submission (some "bob") [finalizer]))).2
  (answer midnight both (.delete (Environment.address (some "team") "bob"))).2

def reporting : Intrusion Unit where
  verb := .replace
  kind := "DeveloperEnvironment"
  name := "alice"
  act c := ((), (c.answer midnight (.patchStatus (Environment.address (some "team") "alice")
    (.obj [("phase", .str "Ready")]))).2)

def reported : Scenario Unit := { cluster := pair, now := midnight, intrusions := [reporting] }

theorem honest_reported : reported.Honest := by
  intro i hi c
  cases List.mem_singleton.1 hi
  exact .single (move_answer ..)

def reportedState : {s : Scenario Unit // s.Honest} := ⟨reported, honest_reported⟩

theorem finalizer_edits_reported :
    (∃ (env : Environment) (s' : {s : Scenario Unit // s.Honest}),
      (submittedEnvironment (some "alice") ["team/archive"]).addFinalizer.run (Scenario.contested Unit).toAnswerer
          reportedState = (.ok env, s') ∧
        env.metadata.finalizers = some ["team/archive", finalizer] ∧
        ∃ o, Stored s'.1.cluster (Environment.address (some "team") "alice").key o env) ∧
      ∃ (env : Environment) (c : Cluster), env.removeFinalizer.run (answerer midnight) pair = (.ok (), c) ∧
        c.find? (Environment.address (some "team") "bob").key = none := by
  have hreachable : Reachable pair := .answer _ _ (.answer _ _ reachable_submitted)
  obtain ⟨-, -, hstore⟩ := (Scenario.contested Unit).finalizer_edits reportedState hreachable .refl
  obtain ⟨-, -, halone⟩ := (alone midnight).finalizer_edits pair hreachable .refl
  constructor
  · have hstored : Stored pair (Environment.address (some "team") "alice").key
        (({} : Cluster).admitted (submission (some "alice") ["team/archive"]))
        (submittedEnvironment (some "alice") ["team/archive"]) := ⟨by with_unfolding_all rfl, rfl⟩
    have hadded : ((submittedEnvironment (some "alice") ["team/archive"]).addFinalizer.run
        (Scenario.contested Unit).toAnswerer reportedState).1.toOption.map (·.metadata.finalizers) =
          some (some ["team/archive", finalizer]) := by
      with_unfolding_all rfl
    cases hrun : (submittedEnvironment (some "alice") ["team/archive"]).addFinalizer.run
        (Scenario.contested Unit).toAnswerer reportedState with
    | mk r s' =>
        rw [hrun] at hadded
        cases r with
        | error e => cases hadded
        | ok env =>
            obtain ⟨-, name', o, hname | ⟨hname, -⟩, ho⟩ := (hstore _ _ _ _ hstored).1 env s' hrun
            · subst hname
              exact ⟨env, s', rfl, Option.some.inj hadded, o, ho⟩
            · cases hname
  · obtain ⟨o, env, hstored, hremoved⟩ := Stored.of_read? (c := pair) (a := Environment.address (some "team") "bob")
      (f := fun env => ((env.removeFinalizer.run (answerer midnight) pair).1.toOption,
        env.metadata.deletionTimestamp, env.metadata.finalizers))
      (b := (some (), some midnight, some [finalizer])) (by with_unfolding_all rfl)
    obtain ⟨hok, hmark, hfinalizers⟩ : _ ∧ _ ∧ _ := by simpa only [Prod.mk.injEq] using hremoved
    cases hrun : env.removeFinalizer.run (answerer midnight) pair with
    | mk r c' =>
        rw [hrun] at hok
        cases r with
        | error e => cases hok
        | ok _ =>
            have hlacks := (halone _ _ _ _ hstored).2 c' hrun
            have hlast : env.metadata.deletionTimestamp.isSome = true ∧
                ∀ f ∈ env.metadata.finalizerList, f = finalizer := by
              simp [hmark, Metadata.finalizerList, hfinalizers]
            rw [Contested.Lacks, if_pos hlast] at hlacks
            exact ⟨env, c', hrun, hlacks⟩

def unnamed : Object :=
  { Pass.submission none [] with metadata := { generateName := some "bob", «namespace» := some "team" } }

def twoBobs : Cluster :=
  (answer midnight (submitted (some "bob") []) (.create Kind.environment.resource unnamed)).2.plant
    ⟨.replace, "DeveloperEnvironment", "", .conflictOnce⟩

theorem marks_namesake : ¬∀ (now : Instant) (c c' : Cluster) (ns : Option String) (name : String) (o : Object)
    (env env' : Environment), Reachable c → Stored c (Environment.address ns name).key o env →
      env.addFinalizer.run (answerer now) c = (.ok env', c') →
        env'.hasFinalizer = true ∧ ∃ o', Stored c' (Environment.address ns name).key o' env' := by
  intro h
  have hreachable : Reachable twoBobs := .plant _ (.answer _ _ reachable_submitted)
  obtain ⟨o, env, hstored, hadded⟩ := Stored.of_read? (c := twoBobs) (a := Environment.address (some "team") "")
    (f := fun env =>
      let r := env.addFinalizer.run (answerer midnight) twoBobs
      (r.1.toOption.map (·.metadata.name),
        (r.2.read? Environment (Environment.address (some "team") "")).map (·.metadata.name)))
    (b := (some (some "bob"), some none)) (by with_unfolding_all rfl)
  obtain ⟨hbob, hunnamed⟩ := Prod.mk.inj hadded
  cases hrun : env.addFinalizer.run (answerer midnight) twoBobs with
  | mk r c' =>
      rw [hrun] at hbob hunnamed
      cases r with
      | error e => cases hbob
      | ok env' =>
          obtain ⟨-, o', hstored'⟩ := h midnight twoBobs c' _ _ o env env' hreachable hstored hrun
          rw [read?_of_find? hstored'.1 hstored'.2] at hunnamed
          cases (Option.some.inj hbob).symm.trans (Option.some.inj hunnamed)

end Pair

end Contested

end EnvironmentOperator
