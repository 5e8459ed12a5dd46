import PackageSweep.Duration

/-!
# Wording

The texts that the program takes from elsewhere: what its readers say of a document they reject, how
the command line is explained, and how times are written. Everything else it says is its own.
-/

namespace PackageSweep

structure Wording where
  /-- Of a configuration that is no TOML document. -/
  notToml : String
  /-- Of a configuration with a value of the wrong type. -/
  mistyped : String
  /-- Of a configuration without a field of this name. -/
  missingField : String → String
  /-- Of a manifest that is no TOML document. -/
  badManifest : String
  /-- Of a manifest that is no JSON document. -/
  badJson : String
  /-- The explanation of the command line. -/
  usage : String
  /-- The time at the head of a log line. -/
  stamp : String
  /-- A time that has passed. -/
  elapsed : Duration → String

def Wording.plain : Wording where
  notToml := "the text is not a TOML document"
  mistyped := "a value has the wrong type"
  missingField := fun name => "the field `" ++ name ++ "` is missing"
  badManifest := "the text is not a TOML document"
  badJson := "the text is not a JSON document"
  usage := "usage: [--root ROOT] [-c|--config FILE] [-v|--verbose] [options] [--] [command...]\n"
  stamp := "-"
  elapsed := Duration.text

end PackageSweep
