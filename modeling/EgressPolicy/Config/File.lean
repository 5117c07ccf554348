/-
EgressPolicy/Config/File.lean

Configuration files.
-/
import EgressPolicy.Config.Decode
import EgressPolicy.Toml.Parser

namespace EgressPolicy.Config

/-- The settings of a document, or why it has none. -/
def ofDocument (text : String) : Except DocumentFault Config :=
  match Toml.parse text with
  | .error fault => .error (.toml fault)
  | .ok entries => (ofEntries entries).mapError .settings

/-- The settings of the file at `path`, with paths as seen from where the
program runs. -/
def load (path : String) (content : FileContent) : Except ConfigError Config :=
  match content.text with
  | .error fault => .error (.file fault)
  | .ok text =>
    match ofDocument text with
    | .error fault => .error (.malformed fault)
    | .ok c => .ok (c.rebase (Path.parent? path))

end EgressPolicy.Config
