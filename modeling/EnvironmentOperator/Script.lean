import EnvironmentOperator.Environment.Spec
import EnvironmentOperator.Toolchain

namespace EnvironmentOperator.Script

def baseLines : List String := [
  "#!/bin/bash",
  "echo $SUDO_PASSWORD | sudo -S -v",
  "export DEBIAN_FRONTEND=noninteractive",
  "# Update package lists",
  "sudo apt-get update",
  "",
  "# Install core development tools",
  "sudo apt-get install -y \\",
  "    git \\",
  "    curl \\",
  "    wget \\",
  "    build-essential \\",
  "    software-properties-common \\",
  "    ca-certificates \\",
  "    gnupg \\",
  "    lsb-release",
  "",
  "# Install language-specific tools based on environment configuration"]

def packagesHeader : String := "# Install additional tools specified in the environment"

def cleanupLines : List String := [
  "# Clean up",
  "sudo apt-get clean",
  "sudo rm -rf /var/lib/apt/lists/*",
  "",
  "echo \"Development tools installation complete!\"",
  ""]

def packageLine (d : Dependency) : String :=
  if d.version = "" then "sudo apt-get install -y " ++ d.name
  else "sudo apt-get install -y " ++ d.name ++ "=" ++ d.version

def languageSection (spec : EnvironmentSpec) : List String :=
  match Toolchain.ofLanguage? spec.language with
  | some t => [t.sectionText spec.version]
  | none => []

def parts (spec : EnvironmentSpec) : List String :=
  baseLines ++ languageSection spec ++ ["", packagesHeader] ++ spec.dependencies.map packageLine ++ "" :: cleanupLines

def render (spec : EnvironmentSpec) : String := "\n".intercalate (parts spec)

end EnvironmentOperator.Script
