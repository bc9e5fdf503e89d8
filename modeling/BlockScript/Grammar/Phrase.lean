import BlockScript.Nonterminal

namespace BlockScript.Grammar

inductive Phrase where
  | empty
  | anyOf (kinds : List Terminal)
  | noneOf (kinds : List Terminal)
  | operand (nonterminal : Nonterminal) (floor : Nat)
  | seq (first second : Phrase)
  | alt (first second : Phrase)
  | opt (body : Phrase)
  | star (body : Phrase)
  | plus (body : Phrase)

namespace Phrase

instance : Mul Phrase := ⟨seq⟩

instance : Add Phrase := ⟨alt⟩

def tok (kind : Terminal) : Phrase := anyOf [kind]

def rule (nonterminal : Nonterminal) : Phrase := operand nonterminal 0

instance : Coe Terminal Phrase := ⟨tok⟩

instance : Coe Nonterminal Phrase := ⟨rule⟩

def parens (body : Phrase) : Phrase := tok .LEFT_PAREN * body * tok .RIGHT_PAREN

def commas (body : Phrase) : Phrase := body * star (tok .COMMA * body)

def series (body : Phrase) : Phrase := plus (opt (tok .COMMA) * body)

end Phrase

structure Operator where
  strength : Nat
  phrase : Phrase

inductive Production where
  | plain (phrase : Phrase)
  | climbing (operand : Phrase) (operators : List Operator)

namespace Production

def floors : Production → Nat
  | .plain _ => 1
  | .climbing _ operators => operators.foldl (fun n o => max n (o.strength + 2)) 1

end Production
end BlockScript.Grammar
