/-!
Kinds of places in source text: declarations, written types and expressions.
-/

namespace TypeAtlas

inductive SiteKind where
  | sourceFile
  | moduleBlock
  | interfaceDeclaration
  | classDeclaration
  | enumDeclaration
  | enumMember
  | typeAlias
  | typeParameter
  | variableDeclaration
  | functionDeclaration
  | parameter
  | propertySignature
  | propertyDeclaration
  | methodSignature
  | methodDeclaration
  | constructorDeclaration
  | indexSignature
  | exportAssignment
  | typeReference
  | typeLiteral
  | keyofOperator
  | unionType
  | inferType
  | mappedType
  | functionType
  | constructorType
  | typeNode
  | identifier
  | expressionWithTypeArguments
  | expression
deriving DecidableEq, Repr, Inhabited

def SiteKind.text : SiteKind → String
  | .sourceFile => "sourceFile"
  | .moduleBlock => "module"
  | .interfaceDeclaration => "interface"
  | .classDeclaration => "class"
  | .enumDeclaration => "enum"
  | .enumMember => "enumMember"
  | .typeAlias => "typeAlias"
  | .typeParameter => "typeParameter"
  | .variableDeclaration => "variable"
  | .functionDeclaration => "function"
  | .parameter => "parameter"
  | .propertySignature => "propertySignature"
  | .propertyDeclaration => "propertyDeclaration"
  | .methodSignature => "methodSignature"
  | .methodDeclaration => "methodDeclaration"
  | .constructorDeclaration => "constructor"
  | .indexSignature => "indexSignature"
  | .exportAssignment => "exportAssignment"
  | .typeReference => "typeReference"
  | .typeLiteral => "typeLiteral"
  | .keyofOperator => "keyofOperator"
  | .unionType => "unionType"
  | .inferType => "inferType"
  | .mappedType => "mappedType"
  | .functionType => "functionType"
  | .constructorType => "constructorType"
  | .typeNode => "typeNode"
  | .identifier => "identifier"
  | .expressionWithTypeArguments => "expressionWithTypeArguments"
  | .expression => "expression"

def SiteKind.all : List SiteKind :=
  [.sourceFile, .moduleBlock, .interfaceDeclaration, .classDeclaration, .enumDeclaration,
   .enumMember, .typeAlias, .typeParameter, .variableDeclaration, .functionDeclaration,
   .parameter, .propertySignature, .propertyDeclaration, .methodSignature, .methodDeclaration,
   .constructorDeclaration, .indexSignature, .exportAssignment, .typeReference, .typeLiteral,
   .keyofOperator, .unionType, .inferType, .mappedType, .functionType, .constructorType,
   .typeNode, .identifier, .expressionWithTypeArguments, .expression]

def SiteKind.ofText? (s : String) : Option SiteKind := SiteKind.all.find? (·.text == s)

inductive HeritageToken where
  | bases
  | implemented
deriving DecidableEq, Repr, Inhabited

def HeritageToken.text : HeritageToken → String
  | .bases => "extends"
  | .implemented => "implements"

def HeritageToken.ofText? (s : String) : Option HeritageToken :=
  [HeritageToken.bases, .implemented].find? (·.text == s)

inductive IndexKind where
  | string
  | number
deriving DecidableEq, Repr, Inhabited

end TypeAtlas
