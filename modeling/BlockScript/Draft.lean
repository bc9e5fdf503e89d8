/-!
Drafts: target syntax while it is put together. A draft is more lenient than a program.
-/

namespace BlockScript

export List (all_eq_true append_assoc append_nil cons_append cons_ne_nil contains_eq_mem
  contains_iff_mem filter_append filter_eq_nil_iff filter_eq_self flatMap_cons foldlM_append
  foldlM_cons forall_mem_append forall_mem_cons forall_mem_map getElem?_eq_getElem getElem_mem
  length_append length_cons length_drop length_eq_zero_iff length_map length_pos_iff length_take
  mapM_cons map_append map_congr_left map_cons map_nil mem_append mem_append_left mem_append_right
  mem_cons mem_cons_of_mem mem_cons_self mem_filter mem_map mem_map_of_mem mem_singleton
  mem_singleton_self nil_append nil_subset nodup_append nodup_cons not_mem_nil of_mem_zip
  pairwise_append pairwise_cons reverse_cons)
export Option (bind_eq_some_iff bind_some getD_some map_eq_some_iff map_some)
export Bool (and_eq_true eq_iff_iff or_eq_true)

inductive Comparison where
  | eq | ne | gt | ge | lt | le
deriving DecidableEq, Repr, Inhabited

inductive Arithmetic where
  | add | sub | mul | div
deriving DecidableEq, Repr, Inhabited

inductive Operator where
  | comparison (operator : Comparison)
  | arithmetic (operator : Arithmetic)
deriving DecidableEq, Repr, Inhabited

inductive Connective where
  | both | either
deriving DecidableEq, Repr, Inhabited

inductive Literal where
  | bool (value : Bool)
  | int (value : Int)
  | float (value : Float)
  | text (value : String)
deriving Inhabited

/-- A name met in embedded query text: its first part, the parts after it, and the offsets of its
first and last characters. -/
structure Reference where
  root : String
  attrs : List String := []
  start : Int
  stop : Int
deriving DecidableEq, Repr, Inhabited

inductive Draft where
  | missing
  | text (value : String)
  | name (id : Draft)
  | attribute (value attr : Draft)
  | call (func : Draft) (args : List Draft)
  | constant (value : Literal)
  | binary (left : Draft) (operator : Operator) (right : Draft)
  | connect (connective : Connective) (operands : List Draft)
  | negative (operand : Draft)
  | compare (left operator right : Draft)
  | list (items : List Draft)
  | subscript (value index : Draft)
  | operator (operator : Operator)
  | expr (value : Draft)
  | pass
  | continueLoop
  | breakLoop
  | branch (test : Draft) (body orelse : List Draft)
  | whileLoop (test : Draft) (body : List Draft)
  | forLoop (target range : Draft) (body : List Draft)
  | raiseError (exception : Draft)
  | returnValue (value : Draft)
  | update (target value : Draft)
  | assign (target value : Draft)
  | guard (body handlers : List Draft)
  | handler (exception : Draft) (body : List Draft)
  | parameter (name : Draft)
  | function (name : String) (parameters body decorators : List Draft)
  | classDef (name : String) (body bases : List Draft)
  | importAll (source : String)
  | program (body : List Draft)
  | typeMark (type : Draft)
  | elsifMark
  | elseMark
  | query (text : String)
  | reference (value : Reference)
deriving Inhabited

namespace Draft

def ident (id : String) : Draft := .name (.text id)

def member (value : Draft) (attr : String) : Draft := .attribute value (.text attr)

def id? : Draft → Option String
  | .name (.text id) => some id
  | _ => none

def isName : Draft → Bool
  | .name _ => true
  | _ => false

def isExpr : Draft → Bool
  | .expr _ => true
  | _ => false

def isHandler : Draft → Bool
  | .handler .. => true
  | _ => false

def isParameter : Draft → Bool
  | .parameter _ => true
  | _ => false

def isTypeMark : Draft → Bool
  | .typeMark _ => true
  | _ => false

def asStatement (d : Draft) : Draft := if d.isExpr then d else .expr d

def cell (value : Draft) : Draft := .call (.ident "m") [value]

def description : Draft → String
  | .missing => "None"
  | .text value => value
  | .name _ => "<ast.Name object>"
  | .attribute .. => "<ast.Attribute object>"
  | .call .. => "<ast.Call object>"
  | .constant _ => "<ast.Constant object>"
  | .binary .. => "<ast.BinOp object>"
  | .connect .. => "<ast.BoolOp object>"
  | .negative _ => "<ast.UnaryOp object>"
  | .compare .. => "<ast.Compare object>"
  | .list _ => "<ast.List object>"
  | .subscript .. => "<ast.Subscript object>"
  | .operator (.comparison .eq) => "<ast.Eq object>"
  | .operator (.comparison .ne) => "<ast.NotEq object>"
  | .operator (.comparison .gt) => "<ast.Gt object>"
  | .operator (.comparison .ge) => "<ast.GtE object>"
  | .operator (.comparison .lt) => "<ast.Lt object>"
  | .operator (.comparison .le) => "<ast.LtE object>"
  | .operator (.arithmetic .add) => "<ast.Add object>"
  | .operator (.arithmetic .sub) => "<ast.Sub object>"
  | .operator (.arithmetic .mul) => "<ast.Mult object>"
  | .operator (.arithmetic .div) => "<ast.Div object>"
  | .expr _ => "<ast.Expr object>"
  | .pass => "<ast.Pass object>"
  | .continueLoop => "<ast.Continue object>"
  | .breakLoop => "<ast.Break object>"
  | .branch .. => "<ast.If object>"
  | .whileLoop .. => "<ast.While object>"
  | .forLoop .. => "<ast.For object>"
  | .raiseError _ => "<ast.Raise object>"
  | .returnValue _ => "<ast.Return object>"
  | .update .. => "<ast.AugAssign object>"
  | .assign .. => "<ast.Assign object>"
  | .guard .. => "<ast.Try object>"
  | .handler .. => "<ast.ExceptHandler object>"
  | .parameter _ => "<ast.arg object>"
  | .function .. => "<ast.FunctionDef object>"
  | .classDef .. => "<ast.ClassDef object>"
  | .importAll _ => "<ast.ImportFrom object>"
  | .program _ => "<ast.Module object>"
  | .typeMark _ => "<common.TYPE object>"
  | .elsifMark => "<common.ELIF object>"
  | .elseMark => "<common.ELSE object>"
  | .query _ => "<common.SQL object>"
  | .reference _ => "<common.SQL_VAR object>"

end Draft
end BlockScript
