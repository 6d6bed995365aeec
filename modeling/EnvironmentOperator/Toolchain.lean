namespace EnvironmentOperator

namespace Text

/-- The lines of a text. After a break at its end comes an empty one. -/
def splitLines (text : String) : List String := (text.toList.splitOn '\n').map String.ofList

def splitFirst? (pattern : List Char) : List Char → Option (List Char × List Char)
  | [] => if pattern.isPrefixOf [] then some ([], []) else none
  | c :: rest =>
      if pattern.isPrefixOf (c :: rest) then some ([], (c :: rest).drop pattern.length)
      else (splitFirst? pattern rest).map fun (before, after) => (c :: before, after)

def replaceFirst (pattern new text : String) : String :=
  match splitFirst? pattern.toList text.toList with
  | some (before, after) => String.ofList before ++ new ++ String.ofList after
  | none => text

end Text

inductive Toolchain where
  | python
  | nodejs
  | go
  | rust
  | java
deriving DecidableEq

namespace Toolchain

def all : List Toolchain := [.python, .nodejs, .go, .rust, .java]

def language : Toolchain → String
  | .python => "python"
  | .nodejs => "nodejs"
  | .go => "go"
  | .rust => "rust"
  | .java => "java"

def ofLanguage? (s : String) : Option Toolchain := all.find? (fun t => t.language = s)

def defaultVersion : Toolchain → String
  | .python => "3"
  | .nodejs => "lts"
  | .go => "1.21.5"
  | .rust => "stable"
  | .java => "17"

def heading : Toolchain → String
  | .python => "# Python tools"
  | .nodejs => "# Node.js and npm using nvm"
  | .go => "# Go language"
  | .rust => "# Rust toolchain"
  | .java => "# Java development kit"

def placeholder : String := "\x7bv\x7d"

def bodyLines : Toolchain → List String
  | .python => [
      "PYTHON_VERSION=\x7bv\x7d",
      "sudo apt-get install -y python$\x7bPYTHON_VERSION\x7d python$\x7bPYTHON_VERSION\x7d-pip python$\x7bPYTHON_VERSION\x7d-venv",
      "pip$\x7bPYTHON_VERSION\x7d install --upgrade pip",
      "pip$\x7bPYTHON_VERSION\x7d install poetry virtualenv"]
  | .nodejs => [
      "NODEJS_VERSION=\x7bv\x7d",
      "curl -o- https://raw.githubusercontent.com/nvm-sh/nvm/v0.39.4/install.sh | bash",
      "export NVM_DIR=\"$HOME/.nvm\"",
      "[ -s \"$NVM_DIR/nvm.sh\" ] && \\. \"$NVM_DIR/nvm.sh\"",
      "nvm install $\x7bNODEJS_VERSION\x7d",
      "nvm use $\x7bNODEJS_VERSION\x7d",
      "npm install -g yarn pnpm"]
  | .go => [
      "GO_VERSION=\x7bv\x7d",
      "wget https://golang.org/dl/go$\x7bGO_VERSION\x7d.linux-amd64.tar.gz",
      "sudo tar -C /usr/local -xzf go$\x7bGO_VERSION\x7d.linux-amd64.tar.gz",
      "sudo rm go$\x7bGO_VERSION\x7d.linux-amd64.tar.gz",
      "echo 'export PATH=$PATH:/usr/local/go/bin' >> ~/.bashrc"]
  | .rust => [
      "RUST_VERSION=\x7bv\x7d",
      "sudo curl --proto '=https' --tlsv1.2 -sSf https://sh.rustup.rs | sh -s -- -y --default-toolchain $\x7bRUST_VERSION\x7d"]
  | .java => [
      "JAVA_VERSION=\x7bv\x7d",
      "sudo apt-get install -y openjdk-$\x7bJAVA_VERSION\x7d-jdk"]

/-- The text below the heading, with the placeholder in the place of the version. -/
def body (t : Toolchain) : String := "\n".intercalate t.bodyLines

def chosenVersion (t : Toolchain) (version : String) : String :=
  if version = "" then t.defaultVersion else version

def sectionText (t : Toolchain) (version : String) : String :=
  t.heading ++ "\n" ++ Text.replaceFirst placeholder (t.chosenVersion version) t.body

def sectionLines (t : Toolchain) (version : String) : List String := Text.splitLines (t.sectionText version)

theorem ofLanguage?_language (t : Toolchain) : ofLanguage? t.language = some t := by
  cases t <;> decide

theorem ofLanguage?_eq_some_iff {s : String} {t : Toolchain} :
    ofLanguage? s = some t ↔ s = t.language := by
  constructor
  · intro h
    have h := List.find?_some h
    exact (of_decide_eq_true h).symm
  · rintro rfl
    exact ofLanguage?_language t

theorem heading_injective {a b : Toolchain} (h : a.heading = b.heading) : a = b := by
  revert h
  cases a <;> cases b <;> decide

end Toolchain

end EnvironmentOperator
