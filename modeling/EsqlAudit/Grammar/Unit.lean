import EsqlAudit.Grammar.Statement
import EsqlAudit.Text.Utf8

/-!
Whole C texts, from tokens to syntax trees. A text becomes one unit with the function
definitions in it; everything between them is passed over.
-/
namespace EsqlAudit.Grammar
open Syntax

/-- A parameter of which the first tokens have been read: where it starts, its parts from the last on, and the
star that was the last token, if one was. -/
structure Parameter where
  start : Nat
  parts : List Node
  star : Option Token

namespace Parameter

/-- A parameter that starts with the token. -/
def starting (t : Token) : Parameter := ⟨t.start, [], none⟩

/-- The parameter after one more token. Words that name a type and other words are its parts; a word
right after a star is the name of a pointer, unless it names a type. -/
def add (p : Parameter) (t : Token) : Parameter :=
  if t.text == "*" then { p with star := some t }
  else
    let part : Option Node :=
      if !t.isWord then none
      else if t.isTypeWord then some (leafOf .primitiveType t)
      else
        match p.star with
        | some s => some (spanning .pointerDeclarator s.start t.stop [leafOf .identifier t])
        | none => some (leafOf .identifier t)
    { p with parts := part.toList ++ p.parts, star := none }

/-- The node of a parameter. -/
def node (p : Parameter) : Node :=
  spanning .parameterDeclaration p.start (lastStop p.start p.parts.reverse) p.parts.reverse

end Parameter

/-- The parameters up to the first closing parenthesis, given the one that has been started. -/
def parameters (started : Option Parameter) : List Token → List Node × List Token
  | [] => ((started.map Parameter.node).toList, [])
  | t :: rest =>
    if t.text == ")" then ((started.map Parameter.node).toList, t :: rest)
    else if t.text == "," then
      let (nodes, more) := parameters none rest
      ((started.getD (.starting t)).node :: nodes, more)
    else parameters (some ((started.getD (.starting t)).add t)) rest

theorem parameters_suffix (started : Option Parameter) (ts : List Token) :
    (parameters started ts).2 <:+ ts := by
  induction ts generalizing started with
  | nil => exact List.suffix_refl []
  | cons t rest ih =>
    simp only [parameters]
    split
    · exact List.suffix_refl _
    · split <;> exact suffix_of_rest t (ih _)

/-- The tokens after the stars at the front. -/
def dropStars : List Token → List Token
  | [] => []
  | t :: rest => if t.text == "*" then dropStars rest else t :: rest

theorem dropStars_suffix (ts : List Token) : dropStars ts <:+ ts := by
  induction ts with
  | nil => exact List.suffix_refl []
  | cons t rest ih =>
    simp only [dropStars]
    split
    · exact suffix_of_rest t ih
    · exact List.suffix_refl _

/-- The declarator of a function: its name, its parameters, and the stars before the name. -/
def declarator (type name opening : Token) (stars : Bool) (params : List Node) (stop : Nat) : Node :=
  let list := spanning .parameterList opening.start stop params
  let inner := spanning .functionDeclarator name.start stop [leafOf .identifier name, list]
  if stars then spanning .pointerDeclarator type.start stop [inner] else inner

/-- A token is wanted where the text has ended. -/
inductive Overrun where
  | pastEnd
deriving DecidableEq, Repr

/-- Whether a type, a name and an opening parenthesis start a function definition: an opening brace stands
after the parenthesis that closes the parameters. -/
def startsDefinition (type name opening : Token) (after : List Token) : Bool :=
  type.isWord && name.isWord && opening.text == "(" &&
    ((afterClosing 1 after).head?.map fun e => e.text == "\x7b").getD false

/-- The function definition that starts with the word `t`, if one does. The parameters end at the first
closing parenthesis, and whatever token comes next is taken for the brace that opens the body. -/
def definition? (fin : Nat) (t : Token) (rest : List Token) :
    Except Overrun (Option (Parsed Node rest)) :=
  have hstars := dropStars_suffix rest
  match h : dropStars rest with
  | name :: opening :: after =>
    if startsDefinition t name opening after then
      have hparams := parameters_suffix none after
      match hp : parameters none after with
      | (params, close :: brace :: inside) =>
        match compound fin brace inside with
        | ⟨block, more, hmore⟩ =>
          .ok (some ⟨spanning .functionDefinition t.start block.stop
              [leafOf (typeKind t) t,
                declarator t name opening ((rest.head?.map (·.text == "*")).getD false) params close.stop, block],
            more, by
              rw [h] at hstars
              rw [hp] at hparams
              exact (suffix_of_rest close (suffix_of_rest brace hmore)).trans
                (hparams.trans ((suffix_of_rest name (List.suffix_cons opening after)).trans hstars))⟩)
      | _ => .error .pastEnd
    else .ok none
  | _ => .ok none

/-- The function definitions in the tokens. -/
def definitions (fin : Nat) (ts : List Token) : Except Overrun (List Node) :=
  match ts with
  | [] => .ok []
  | t :: rest =>
    match definition? fin t rest with
    | .error e => .error e
    | .ok none => definitions fin rest
    | .ok (some ⟨node, more, hmore⟩) =>
      have := hmore.length_le
      (definitions fin more).map (node :: ·)
termination_by ts.length
decreasing_by
  all_goals simp only [List.length_cons]
  all_goals omega

/-- The syntax tree of a text given as bytes. -/
def parse (bytes : List UInt8) : Except Overrun Node :=
  (definitions bytes.length (tokenize bytes)).map (spanning .unit 0 bytes.length)

/-- The syntax tree of a text, if one can be made. -/
def tree? (source : List Char) : Option Node :=
  (parse (Utf8.encode source)).toOption

end EsqlAudit.Grammar
