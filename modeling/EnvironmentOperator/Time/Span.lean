namespace EnvironmentOperator

structure Span where
  seconds : Nat
  nanos : Nat
deriving DecidableEq

namespace Span

def nanosPerSecond : Nat := 1000000000

def ofSeconds (n : Nat) : Span := ⟨n, 0⟩

def totalNanos (s : Span) : Nat := s.seconds * nanosPerSecond + s.nanos

def ofNanos (n : Nat) : Span := ⟨n / nanosPerSecond, n % nanosPerSecond⟩

@[simp] theorem totalNanos_ofNanos (n : Nat) : (ofNanos n).totalNanos = n := by
  simp [ofNanos, totalNanos, nanosPerSecond]; omega

@[simp] theorem totalNanos_ofSeconds (n : Nat) : (ofSeconds n).totalNanos = n * nanosPerSecond := by
  simp [ofSeconds, totalNanos]

end Span

end EnvironmentOperator
