import EnvironmentOperator.Proofs.Dict
import EnvironmentOperator.Proofs.Reconcile.Finalizer
import EnvironmentOperator.Reconcile.Status

namespace EnvironmentOperator.Status

open Cluster Environment

variable {f : Fields} {url text text' : String} {generation : Int64}

def stamped (f : Fields) (url text : String) (generation : Int64) : Fields :=
  Dict.put (Dict.put (Dict.put (Dict.put f "accessURL" (.str url)) "lastUpdated" (.str text))
    "observedGeneration" (encode generation)) "phase" (.str "Ready")

def statusFields (data : Json) : Fields := ((data.member? "status").getD .null).fieldsOrEmpty

def reported (data : Json) (url text : String) (generation : Int64) : Json :=
  .obj (Dict.put data.fieldsOrEmpty "status" (.obj (stamped (statusFields data) url text generation)))

theorem member?_reported (data : Json) (url text : String) (generation : Int64) (key : String) :
    (reported data url text generation).member? key =
      if key = "status" then some (.obj (stamped (statusFields data) url text generation)) else data.member? key := by
  rw [reported, Json.member?_obj, Dict.at?_put, Json.at?_fieldsOrEmpty]

def timeText (env : Environment) (now : Instant) : String := Rfc3339.write (nextTimestamp (previousUpdate env) now)

theorem withStatus_readyPatch {env : Environment} (h : env.metadata.generation = some generation) (s : Scope)
    (now : Instant) (data : Json) :
    withStatus data (readyPatch env s now) = reported data s.accessUrl (timeText env now) generation := by
  simp [withStatus, Json.withMember, reported, stamped, statusFields, readyPatch, timeText, h, Json.mergePatch,
    Json.mergeFields, encode]

def Holds (f : Fields) (key : String) (value : Json) : Prop := Dict.put f key value = f

theorem holds_put_self (f : Fields) (key : String) (value : Json) : Holds (Dict.put f key value) key value :=
  Dict.put_put f key value value

theorem Holds.put {key key' : String} {value : Json} (h : Holds f key value) (value' : Json) (hne : key ≠ key') :
    Holds (Dict.put f key' value') key value := by
  rw [Holds, Dict.put_comm f value' value hne.symm, h]

structure Stamped (f : Fields) (url text : String) (generation : Int64) : Prop where
  accessUrl : Holds f "accessURL" (.str url)
  lastUpdated : Holds f "lastUpdated" (.str text)
  observedGeneration : Holds f "observedGeneration" (encode generation)
  phase : Holds f "phase" (.str "Ready")

theorem stamped_stamps (f : Fields) (url text : String) (generation : Int64) :
    Stamped (stamped f url text generation) url text generation where
  accessUrl := (((holds_put_self ..).put _ (by decide)).put _ (by decide)).put _ (by decide)
  lastUpdated := ((holds_put_self ..).put _ (by decide)).put _ (by decide)
  observedGeneration := (holds_put_self ..).put _ (by decide)
  phase := holds_put_self ..

theorem Stamped.again (h : Stamped f url text generation) (text' : String) :
    stamped f url text' generation = Dict.put f "lastUpdated" (.str text') := by
  have hgeneration := h.observedGeneration.put (.str text') (by decide : "observedGeneration" ≠ "lastUpdated")
  have hphase := h.phase.put (.str text') (by decide : "phase" ≠ "lastUpdated")
  rw [stamped, h.accessUrl, hgeneration, hphase]

theorem at?_stamped (f : Fields) (url text : String) (generation : Int64) (key : String) :
    Dict.at? (stamped f url text generation) key =
      if key = "phase" then some (.str "Ready")
      else if key = "observedGeneration" then some (encode generation)
      else if key = "lastUpdated" then some (.str text)
      else if key = "accessURL" then some (.str url)
      else Dict.at? f key := by
  rw [stamped, Dict.at?_put, Dict.at?_put, Dict.at?_put, Dict.at?_put]

theorem stamped_of_same (h : Fields.Same (stamped f url text generation) f) : stamped f url text generation = f := by
  have hmember : ∀ key j, Dict.at? (stamped f url text generation) key = some j → j.RealFree →
      Dict.at? f key = some j := by
    intro key j hj hfree
    rw [← hj]
    exact h.symm.at?_eq fun i hi => Option.some.inj (hj.symm.trans hi) ▸ hfree
  have hphase := hmember "phase" (.str "Ready") (at?_stamped ..) trivial
  have hgeneration := hmember "observedGeneration" (encode generation) (at?_stamped ..) trivial
  have htime := hmember "lastUpdated" (.str text) (at?_stamped ..) trivial
  have hurl := hmember "accessURL" (.str url) (at?_stamped ..) trivial
  have hlength := h.length_eq
  unfold stamped at hlength ⊢
  have h₁ := Dict.length_le_put f "accessURL" (.str url)
  have h₂ := Dict.length_le_put (Dict.put f "accessURL" (.str url)) "lastUpdated" (.str text)
  have h₃ := Dict.length_le_put (Dict.put (Dict.put f "accessURL" (.str url)) "lastUpdated" (.str text))
    "observedGeneration" (encode generation)
  have h₄ := Dict.length_le_put (Dict.put (Dict.put (Dict.put f "accessURL" (.str url)) "lastUpdated" (.str text))
    "observedGeneration" (encode generation)) "phase" (.str "Ready")
  have hput₁ : Dict.put f "accessURL" (.str url) = f := Dict.put_eq_self (by omega) hurl
  rw [hput₁] at hlength h₂ h₃ h₄ ⊢
  have hput₂ : Dict.put f "lastUpdated" (.str text) = f := Dict.put_eq_self (by omega) htime
  rw [hput₂] at hlength h₃ h₄ ⊢
  have hput₃ : Dict.put f "observedGeneration" (encode generation) = f := Dict.put_eq_self (by omega) hgeneration
  rw [hput₃] at hlength ⊢
  exact Dict.put_eq_self hlength hphase

theorem reported_of_same {data : Json} (h : Json.Same (reported data url text generation) data) :
    reported data url text generation = data := by
  have hstatus := h.member?_map "status"
  rw [member?_reported, if_pos rfl, Option.map_some] at hstatus
  obtain ⟨j, hj, hsame⟩ := Option.map_eq_some_iff.1 hstatus.symm
  obtain ⟨g, rfl, hg⟩ := Json.fields_of_unsignedZeros_obj hsame
  have hfields : statusFields data = g := by rw [statusFields, hj]; rfl
  rw [hfields] at hg
  have hstamped := stamped_of_same (Eq.symm hg)
  cases data with
  | obj fields =>
      rw [reported, hfields, hstamped] at h ⊢
      exact congrArg Json.obj (Dict.put_eq_self (Fields.same_obj.1 h).length_eq hj)
  | _ => cases hj

theorem statusFields_reported (data : Json) (url text : String) (generation : Int64) :
    statusFields (reported data url text generation) = stamped (statusFields data) url text generation := by
  rw [statusFields, member?_reported, if_pos rfl]
  rfl

theorem reported_reported (data : Json) (url text text' : String) (generation : Int64) :
    reported (reported data url text generation) url text' generation =
      (reported data url text generation).withMember "status"
        (.obj (Dict.put (statusFields (reported data url text generation)) "lastUpdated" (.str text'))) := by
  have hagain := (stamped_stamps (statusFields data) url text generation).again text'
  rw [reported, statusFields_reported, hagain]
  rfl

theorem reported_idem (data : Json) (url text : String) (generation : Int64) :
    reported (reported data url text generation) url text generation = reported data url text generation := by
  rw [reported_reported, statusFields_reported, (stamped_stamps (statusFields data) url text generation).lastUpdated]
  exact congrArg Json.obj (Dict.put_put ..)

theorem decode_stamped {conditions : Option (List Condition)}
    (h : Fields.readGiven (Dict.at? f "conditions") = .ok conditions) (url text : String) (generation : Int64) :
    decode (Json.obj (stamped f url text generation)) =
      .ok (EnvironmentStatus.mk "Ready" (conditions.getD []) (some url) (some text) (some generation)) := by
  have hurl : Fields.readOptional (some (Json.str url)) = .ok (some url) := Fields.readOptional_some_encode url
  have htext : Fields.readOptional (some (Json.str text)) = .ok (some text) := Fields.readOptional_some_encode text
  have hphase : Fields.readGiven (some (Json.str "Ready")) = .ok (some "Ready") := Fields.readGiven_some_encode "Ready"
  simp [decode, EnvironmentStatus.ofFields, at?_stamped, h, hurl, htext, hphase]

theorem read_conditions {data : Json} {status : Option EnvironmentStatus}
    (h : Fields.readOptional (data.member? "status") = .ok status) :
    ∃ conditions, Fields.readGiven (α := List Condition) (Dict.at? (statusFields data) "conditions") =
      .ok conditions := by
  unfold statusFields
  cases hstatus : data.member? "status" with
  | none => exact ⟨none, rfl⟩
  | some j =>
      cases j with
      | obj fields =>
          rw [hstatus, Fields.readOptional_some (by simp)] at h
          cases hread : (decode (Json.obj fields) : Except DecodeError EnvironmentStatus) with
          | error e =>
              rw [hread] at h
              cases h
          | ok read =>
              simp only [decode, decodeRecord_obj, EnvironmentStatus.ofFields, bind_eq_ok, Fields.given_eq] at hread
              obtain ⟨_, -, conditions, hconditions, -⟩ := hread
              exact ⟨conditions, hconditions⟩
      | _ => exact ⟨none, rfl⟩

theorem read_reported {data : Json} {status : Option EnvironmentStatus}
    (h : Fields.readOptional (data.member? "status") = .ok status) (url text : String) (generation : Int64) :
    ∃ conditions, Fields.readOptional ((reported data url text generation).member? "status") =
      .ok (some (EnvironmentStatus.mk "Ready" conditions (some url) (some text) (some generation))) := by
  obtain ⟨conditions, hconditions⟩ := read_conditions h
  refine ⟨conditions.getD [], ?_⟩
  rw [member?_reported, if_pos rfl, Fields.readOptional_some (by simp), decode_stamped hconditions]
  rfl

section Write

variable {c : Cluster} {k : Key} {o : Object} {env : Environment}

def reportedAs (o : Object) (url text : String) (generation : Int64) (version : Option String) : Object :=
  { o with
    data := reported o.data url text generation
    metadata := { o.metadata with resourceVersion := version }
    unreserved := o.unreserved.fieldsOrEmpty.withStatus _ }

/-- The cluster once a pass has reported; nothing is written when the status says the same already. -/
def afterReport (c : Cluster) (k : Key) (o : Object) (url text : String) (generation : Int64) : Cluster :=
  if reported o.data url text generation = o.data then c
  else c.commit (Dict.put c.objects k (reportedAs o url text generation (some c.nextVersion)))

theorem patchStatus_eq {a : Address} {patch : Json} (h : c.find? a.key = some o)
    (hpatch : withStatus o.data patch = reported o.data url text generation) :
    c.patchStatus a patch = (.ok (), afterReport c a.key o url text generation) := by
  have hobject : c.reportedOn o patch = reportedAs o url text generation (some c.nextVersion) := by
    simp only [reportedOn, hpatch, reportedAs]
  simp only [patchStatus, h, hpatch, hobject, afterReport]
  by_cases hsame : reported o.data url text generation = o.data
  · rw [hsame, if_pos (Json.Same.refl _), if_pos rfl]
  · rw [if_neg fun hfields => hsame (reported_of_same hfields), if_neg hsame]

theorem find?_afterReport (h : c.find? k = some o) (url text : String) (generation : Int64) :
    ∃ version, (afterReport c k o url text generation).find? k = some (reportedAs o url text generation version) := by
  unfold afterReport
  by_cases hsame : reported o.data url text generation = o.data
  · refine ⟨o.metadata.resourceVersion, ?_⟩
    rw [if_pos hsame, h]
    simp only [reportedAs, hsame]
  · refine ⟨some c.nextVersion, ?_⟩
    rw [if_neg hsame, find?_commit_put, if_pos rfl]

theorem find?_afterReport_of_ne {k' : Key} (h : k' ≠ k) (url text : String) (generation : Int64) :
    (afterReport c k o url text generation).find? k' = c.find? k' := by
  unfold afterReport
  split
  · rfl
  · exact (find?_commit_put ..).trans (if_neg h)

theorem stored_afterReport (h : Stored c k o env) (url text : String) (generation : Int64) : ∃ version conditions,
    Stored (afterReport c k o url text generation) k (reportedAs o url text generation version)
      { env with
        metadata := (reportedAs o url text generation version).metadata.exchanged
        status := some (EnvironmentStatus.mk "Ready" conditions (some url) (some text) (some generation)) } := by
  obtain ⟨-, hspec, hstatus⟩ := ofObject_eq_ok.1 h.2
  obtain ⟨version, hfind⟩ := find?_afterReport h.1 url text generation
  obtain ⟨conditions, hread⟩ := read_reported hstatus url text generation
  refine ⟨version, conditions, hfind, ofObject_eq_ok.2 ⟨rfl, ?_, hread⟩⟩
  have hkept : (reported o.data url text generation).member? "spec" = o.data.member? "spec" :=
    (member?_reported ..).trans (if_neg (by decide))
  exact hkept ▸ hspec

theorem along_markReady {σ : Type} {w : Answerer σ} {C : Call → σ → Prop} {Q : Except StoreError Unit → σ → Prop}
    {t : Instant} {s : Scope} {x : σ} : (markReady env s t).Along w C Q x ↔
      C (.patchStatus (Environment.address (some s.namespace) s.name) (readyPatch env s t)) x ∧
        Q (w.answer (.patchStatus (Environment.address (some s.namespace) s.name) (readyPatch env s t)) x).1
          (w.answer (.patchStatus (Environment.address (some s.namespace) s.name) (readyPatch env s t)) x).2 :=
  Program.along_request

theorem markReady_along (now t : Instant) {s : Scope}
    (h : c.find? (Environment.address (some s.namespace) s.name).key = some o)
    (hgeneration : env.metadata.generation = some generation) :
    (markReady env s t).Along (answerer now)
      (fun call c' => c' = c ∧ call = .patchStatus (Environment.address (some s.namespace) s.name) (readyPatch env s t))
      (fun r c' => match r with
        | .ok _ => c.Calm (.patchStatus (Environment.address (some s.namespace) s.name) (readyPatch env s t)) ∧
            c' = afterReport c (Environment.address (some s.namespace) s.name).key o s.accessUrl (timeText env t)
              generation
        | .error _ =>
            ¬c.Calm (.patchStatus (Environment.address (some s.namespace) s.name) (readyPatch env s t))) c := by
  have hpatch := patchStatus_eq h (withStatus_readyPatch hgeneration s t o.data)
  refine along_markReady.2 ⟨⟨rfl, rfl⟩, ?_⟩
  rcases answer_cases now c (.patchStatus (Environment.address (some s.namespace) s.name) (readyPatch env s t)) with
    ⟨hcalm, ha⟩ | ⟨hstruck, e, c', ha, -, -⟩
  · simp only [answerer, ha, perform, hpatch]
    exact ⟨hcalm, trivial⟩
  · simp only [answerer, ha]
    exact hstruck

theorem reported_eq_self_iff (data : Json) (url text text' : String) (generation : Int64) :
    reported (reported data url text generation) url text' generation = reported data url text generation ↔
      text' = text := by
  constructor
  · intro h
    have hfields := congrArg (fun d => Dict.at? (statusFields d) "lastUpdated") h
    simp only [statusFields_reported, at?_stamped] at hfields
    simpa using hfields
  · intro h
    rw [h]
    exact reported_idem ..

theorem afterReport_eq_self_iff : afterReport c k o url text generation = c ↔
    reported o.data url text generation = o.data := by
  unfold afterReport
  constructor
  · intro h
    refine Classical.byContradiction ?_
    intro hne
    rw [if_neg hne] at h
    have hmutations := congrArg Cluster.mutations h
    simp only [commit] at hmutations
    omega
  · intro h
    exact if_pos h

end Write

end EnvironmentOperator.Status
