/-
  Muffle.Yaml.Standard

  The library for YAML that the program runs with.
-/

import Muffle.Yaml.Reader
import Muffle.Yaml.Writer

namespace Muffle.Yaml

/-- The standard library. -/
instance standard : Codec where
  load := read
  dump := write

end Muffle.Yaml
