import PseudoLint.Form
import PseudoLint.Rule.Basic

/-! # Rules on declarations

Variables, constants, functions, procedures and their parameters enter the symbol table line by
line. A variable keeps its first declaration; constants, parameters, functions and arrays take the
latest one.
-/

namespace PseudoLint.Rule

/-! ## Variables -/

/-- The names and the type of a variable declaration, if it has a colon. Whatever is no name is
passed over. -/
def declaredNames? (statement : Statement) : Option (List Text × Text) :=
  match Text.cut ':' (statement.code.drop "DECLARE".length) with
  | (names, some type) =>
    some (((names.splitOn ',').map Text.trim).filter isName, TypeText.normalize type)
  | (_, none) => none

/-- Declares one variable on a line. -/
def declareVariable (line : Int) (type name : Text) (table : SymbolTable) :
    SymbolTable × List Finding :=
  if Keyword.isReserved name then (table, [.reservedName name])
  else
    match table.define ⟨name, type, line, .variable⟩ with
    | .ok table => (table, [])
    | .error present =>
      if TypeText.same present.type type then (table, [.redeclared name present.line])
      else (table, [.redeclaredWithType name present.type present.line])

/-- Declares variables of one type on a line, in order. -/
def declareVariables (line : Int) (type : Text) :
    List Text → SymbolTable → SymbolTable × List Finding
  | [], table => (table, [])
  | name :: rest, table =>
    let (table, findings) := declareVariable line type name table
    let (table, others) := declareVariables line type rest table
    (table, findings ++ others)

def declareNames (statement : Statement) (table : SymbolTable) : SymbolTable × List Finding :=
  match declaredNames? statement with
  | some (names, type) => declareVariables statement.line type names table
  | none => (table, [.declarationWithoutColon])

/-- The array with literal bounds that a declaration declares. -/
def declaredArray? (statement : Statement) : Except Fault (Option ArraySymbol) :=
  match Form.arrayDeclaration.first? statement.code with
  | some (name, lower, upper) => do
    let lower ← literalValue lower
    let upper ← literalValue upper
    pure (some ⟨name, lower, upper, statement.line⟩)
  | none => .ok none

/-- What is wrong with the form of a declaration. -/
def declarationFormFindings (statement : Statement) : List Finding :=
  let code := statement.code
  let ofArray :=
    if hasWord "ARRAY" code then
      whenever (!(code.contains '[' && code.contains ']')) .arrayWithoutBrackets ++
        whenever (!hasWord "OF" code) .arrayWithoutOf
    else []
  ofArray ++
    whenever ((Form.charDeclaration.first? statement.text).isSome && statement.text.contains '"')
      .charDeclaredWithString

def declare : Rule := fun _ statement state =>
  if statement.startsWith "DECLARE" then do
    let (table, findings) := declareNames statement state.table
    let array? ← declaredArray? statement
    let table := (array?.map table.declareArray).getD table
    pure ({ state with table }, findings ++ declarationFormFindings statement)
  else .ok (state, [])

/-! ## Constants -/

def declaredConstant? (statement : Statement) : Option Symbol :=
  (Form.constantName.first? statement.text).map
    fun name => ⟨name, TypeText.constant, statement.line, .constant⟩

def constant : Rule :=
  registering fun statement table =>
    if statement.startsWith "CONSTANT" then
      ((declaredConstant? statement).elim table table.bind,
        whenever (!statement.text.contains '=') .constantWithoutEquals ++
          whenever statement.hasArrow .constantWithArrow)
    else (table, [])

/-! ## Functions and procedures -/

/-- One parameter of a list: a name and a type with a colon between them, where the name may follow
a passing mode. -/
def parameter? (line : Int) (text : Text) : Option Parameter :=
  match text.trim.splitOn ':' with
  | [words, type] =>
    let parameterNamed (name : Text) (byReference : Bool) : Option Parameter :=
      if isName name then some ⟨name, TypeText.normalize type, line, byReference⟩ else none
    match Text.words words with
    | [name] => parameterNamed name false
    | [mode, name] =>
      if mode.upper == "BYREF" then parameterNamed name true
      else if mode.upper == "BYVAL" then parameterNamed name false
      else none
    | _ => none
  | _ => none

def parameters (statement : Statement) : List Parameter :=
  match Form.parameterList.first? statement.code with
  | some inside => (inside.splitOn ',').filterMap (parameter? statement.line)
  | none => []

def bindParameters (parameters : List Parameter) (table : SymbolTable) : SymbolTable :=
  parameters.foldl (fun table parameter => table.bind parameter.symbol) table

/-- The return type of a function header, if it gives one. -/
def returnType? (statement : Statement) : Option Text :=
  (afterWord? "RETURNS" statement.code).map TypeText.normalize

def declaredFunction? (statement : Statement) : Option Symbol :=
  (Form.functionName.first? statement.code).map fun name =>
    ⟨name, (returnType? statement).getD [], statement.line, .function (parameters statement)⟩

def subprogram : Rule :=
  registering fun statement table =>
    if statement.firstWord == "FUNCTION" then
      let table := bindParameters (parameters statement) table
      ((declaredFunction? statement).elim table table.declareFunction,
        whenever (returnType? statement).isNone .functionWithoutReturns)
    else if statement.firstWord == "PROCEDURE" then
      (bindParameters (parameters statement) table, [])
    else (table, [])

end PseudoLint.Rule
