namespace EnvironmentOperator.Text

def octets (cs : List Char) : Nat := cs.foldl (fun n c => n + c.utf8Size) 0

def takeOctets (n : Nat) : List Char → List Char
  | [] => []
  | c :: rest => if n = 0 then [] else c :: takeOctets (n - c.utf8Size) rest

def dropOctets (n : Nat) : List Char → List Char
  | [] => []
  | c :: rest => if n = 0 then c :: rest else dropOctets (n - c.utf8Size) rest

theorem takeOctets_append_dropOctets (n : Nat) (cs : List Char) : takeOctets n cs ++ dropOctets n cs = cs := by
  induction cs generalizing n with
  | nil => rfl
  | cons c rest ih =>
      simp only [takeOctets, dropOctets]
      split
      · rfl
      · simp [ih]

end EnvironmentOperator.Text
