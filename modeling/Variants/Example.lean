import Variants.Registry

/-!
A set of pivots such as a package for several platforms has.
-/

namespace Variants.Example

def platform : PivotDefinition where
  name := "Platform"
  key := .text "Platform"
  description := .text "Target platform"
  choices := [
    { name := "Win32"
      aliases := ["x86", "win32", "ia32", "386"]
      condition := some
        "'$(Platform.ToLower())' == 'win32' Or '$(Platform.ToLower())' == 'x86'" },
    { name := "x64"
      aliases := ["x64", "amd64", "em64t", "intel64", "x86-64", "x86_64"]
      condition := some "'$(Platform.ToLower())' == 'x64'" },
    { name := "ARM"
      aliases := ["arm", "woa"]
      condition := some "'$(Platform.ToLower())' == 'arm'" }]

def configuration : PivotDefinition where
  name := "Configuration"
  description := .text "Build configuration"
  choices := [{ name := "Debug" }, { name := "Release" }]

def linkage : PivotDefinition where
  name := "Linkage"
  key := .text "Linkage"
  description := .text "Which version of the .lib file to link to this library"
  choices := [
    { name := "dynamic", description := .text "Dynamic Library (DLL)" },
    { name := "static", description := .text "Static" },
    { name := "ltcg", description := .text "Static (LTCG)" },
    { name := "sxs", description := .text "Side-by-Side" }]

def toolset : PivotDefinition where
  name := "PlatformToolset"
  key := .text "PlatformToolset"
  description := .text "Compiler toolset"
  choices := [
    { name := "v100", aliases := ["v100", "vs2010"] },
    { name := "v110", aliases := ["v110", "vs2012"] },
    { name := "v120", aliases := ["v120", "vs2013"] }]

def definitions : List PivotDefinition :=
  [platform, configuration, linkage, toolset]

def registry : Registry :=
  match Registry.build definitions with
  | .ok registry => registry
  | .error _ => .empty

theorem build_definitions : Registry.build definitions = .ok registry := by
  have accepted : (Registry.build definitions).isOk = true := by decide +kernel
  unfold registry
  cases built : Registry.build definitions with
  | error cause =>
      rw [built] at accepted
      contradiction
  | ok registry => rfl

end Variants.Example
