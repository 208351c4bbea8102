import EsqlAudit.Syntax.Kind

/-!
Syntax trees. A node covers the bytes from `start` up to `stop`; a tree need not agree with the text it
is read against.
-/
namespace EsqlAudit.Syntax

inductive Node where
  | mk (kind : Kind) (start stop : Nat) (children : List Node) (named missing : Bool)

namespace Node

def kind : Node → Kind
  | mk k _ _ _ _ _ => k

def start : Node → Nat
  | mk _ s _ _ _ _ => s

def stop : Node → Nat
  | mk _ _ e _ _ _ => e

def children : Node → List Node
  | mk _ _ _ cs _ _ => cs

/-- Whether the node is more than a mark of its parent. -/
def isNamed : Node → Bool
  | mk _ _ _ _ n _ => n

/-- Whether the node was put in for something that the text lacks. -/
def isMissing : Node → Bool
  | mk _ _ _ _ _ m => m

mutual
/-- The node and all below it, parents before children, children from left to right. -/
def walk : Node → List Node
  | mk k s e cs n m => mk k s e cs n m :: walkAll cs
/-- The nodes of several trees one after the other. -/
def walkAll : List Node → List Node
  | [] => []
  | c :: cs => walk c ++ walkAll cs
end

/-- Whether the tree tells of a syntax error. -/
def hasError (n : Node) : Bool :=
  n.walk.any fun m => m.kind == .error || m.isMissing

/-- The first child of a kind. -/
def child? (n : Node) (k : Kind) : Option Node :=
  n.children.find? (·.kind == k)

end Node

end EsqlAudit.Syntax
