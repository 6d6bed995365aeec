import EnvironmentOperator.Api.Gateway
import EnvironmentOperator.Reconcile
import EnvironmentOperator.Watch.Agenda
import EnvironmentOperator.Watch.Notice
/-!
Keeping watch over the environments of a cluster behind its interface. Each notice of an environment has it looked
at without delay, each look says when the next is due, and time moves on only when it is told to. Nothing is looked
at until every listed environment has been read; later an environment that cannot be read only holds up the notices
after it.
-/
namespace EnvironmentOperator

inductive Feed where
  | unlisted
  | following
  | held (waiting : List Notice)
deriving DecidableEq

structure Watch where
  cluster : Cluster
  now : Instant
  elapsed : Nat := 0
  known : Dict Key Environment := []
  agenda : Agenda := []
  feed : Feed := .unlisted
deriving DecidableEq

namespace Watch

def learn (w : Watch) (k : Key) (env : Environment) : Watch :=
  { w with known := Dict.put w.known k env, agenda := w.agenda.schedule k w.elapsed }

def forget (w : Watch) (k : Key) : Watch := { w with known := Dict.without w.known k }

def read (w : Watch) (n : Notice) : Watch :=
  match n, n.environment? with
  | _, none => { w with feed := .held [] }
  | .stored k _, some env => w.learn k env
  | .removed k _, some _ => w.forget k

def hear (w : Watch) (n : Notice) : Watch :=
  match w.feed with
  | .unlisted => w
  | .following => w.read n
  | .held waiting => { w with feed := .held (waiting ++ [n]) }

def hearAll (w : Watch) (ns : List Notice) : Watch := ns.foldl hear w

/-- Takes up every environment there is, or none of them when one cannot be read or they cannot be asked for. -/
def list (settings : Settings) (w : Watch) : Watch :=
  let listed := w.cluster.environments settings.watchedNamespace
  match listed.mapM (fun e => (e.2.typed Environment).toOption.map (fun env => (e.1, env))) with
  | some envs =>
      if Api.Gateway.canList settings.watchedNamespace then
        envs.foldl (fun w e => w.learn e.1 e.2) { w with feed := .following }
      else w
  | none => w

def resume (settings : Settings) (w : Watch) : Watch :=
  match w.feed with
  | .unlisted => w.list settings
  | .following => w
  | .held waiting => { w with feed := .following }.hearAll waiting

def follow (w : Watch) (k : Key) : Action → Watch
  | .requeueAfter delay => { w with agenda := w.agenda.schedule k (w.elapsed + delay.totalNanos) }
  | .awaitChange => w

def witness (settings : Settings) (w : Watch) (after : Cluster) : Watch :=
  { w with cluster := after }.hearAll (Cluster.notices settings.watchedNamespace w.cluster after)

def look (settings : Settings) (w : Watch) (k : Key) (env : Environment) : Watch :=
  let (result, after) := (Reconcile.respond settings w.now env).run (Api.Gateway.answerer w.now) w.cluster
  let w' := match result with
    | .ok (_, action) => w.follow k action
    | .error _ => w
  w'.witness settings after

def lookUntil (settings : Settings) (limit : Nat) : Nat → Watch → Watch
  | 0, w => { w with elapsed := limit }
  | rounds + 1, w =>
      match w.agenda.due? limit with
      | none => { w with elapsed := limit }
      | some (k, time) =>
          let w := { w with agenda := Dict.without w.agenda k, elapsed := max w.elapsed time }
          match Dict.at? w.known k with
          | none => lookUntil settings limit rounds w
          | some env => lookUntil settings limit rounds (w.look settings k env)

/-- More looks than can fall due within the span when every interval is a second or longer. -/
def rounds (w : Watch) (seconds : Nat) : Nat := 16 * (w.known.length + 1) * (seconds + 2)

def settle (settings : Settings) (seconds : Nat) (w : Watch) : Watch :=
  w.lookUntil settings (w.elapsed + seconds * Span.nanosPerSecond) (w.rounds seconds)

def start (settings : Settings) (now : Instant) (cluster : Cluster) : Watch :=
  (list settings { cluster, now }).settle settings 0

def disturb (settings : Settings) (w : Watch) (after : Cluster) : Watch :=
  (w.witness settings after).settle settings 0

/-- The clock is moved first, so what was due on the way sees the new time. -/
def advance (settings : Settings) (seconds : Nat) (w : Watch) : Watch :=
  let w := { w with now := w.now.plusSeconds seconds }
  let w := if seconds = 0 then w else w.resume settings
  w.settle settings seconds

end Watch

end EnvironmentOperator
