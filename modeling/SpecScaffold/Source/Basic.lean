import SpecScaffold.Source.Node
import SpecScaffold.Text.Bytes

/-!
# Source texts

A source is a text and its syntax tree; nodes refer to the text by byte offsets.
-/

namespace SpecScaffold

structure Source where
  text : String
  root : Node

namespace Source

/-- The text that a node covers. -/
def textOf (src : Source) (n : Node) : String :=
  String.ofList ((Text.slice? n.start n.stop src.text.toList).getD [])

/-- The text of the name of a node. -/
def nameOf? (src : Source) (n : Node) : Option String :=
  (n.child? .name).map src.textOf

/-- Whether a node has a keyword among its own tokens, or as its accessibility. -/
def hasKeyword (src : Source) (n : Node) (keyword : String) : Bool :=
  n.children.any fun c =>
    c.kind == keyword || (c.kind == "accessibility_modifier" && src.textOf c == keyword)

end Source

end SpecScaffold
