import DocIndex.Tool.Basic

/-!
What a client is told before its first call: how the server introduces itself, and which tools it
lists.
-/
namespace DocIndex

structure ServerInfo where
  offersTools : Bool
  instructions : Text
  deriving DecidableEq, Repr

def serverInfo : ServerInfo where
  offersTools := true
  instructions :=
    "docsearch: search package documentation by name or type signature. ".toList ++
    "The package catalog loads on startup and docs for recently updated packages ".toList ++
    "stream in afterwards, so early searches may be partial; use status to check ".toList ++
    "progress and retry for packages that failed.".toList

structure ToolInfo where
  name : Text
  description : Text
  schema : Json

def Tool.info (t : Tool) : ToolInfo := ⟨t.name, t.description, t.schema⟩

def ToolInfo.named? (name : Text) : Option ToolInfo := (Tool.ofName? name).map Tool.info

end DocIndex
