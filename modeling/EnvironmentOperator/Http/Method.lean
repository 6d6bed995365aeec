namespace EnvironmentOperator.Http

def isTokenChar (c : Char) : Bool :=
  c.isAlphanum || ['!', '#', '$', '%', '&', '\'', '*', '+', '-', '.', '^', '_', '\x60', '|', '~'].contains c

def isMethod (s : String) : Bool := !s.isEmpty && s.toList.all isTokenChar

end EnvironmentOperator.Http
