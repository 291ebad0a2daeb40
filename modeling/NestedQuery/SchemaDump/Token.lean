import NestedQuery.Naming
import NestedQuery.Text.Letter
import NestedQuery.Text.Quoted

/-! Tokens of SQL schema dumps. Only the words that statements are recognised by are keywords, and
characters without a meaning to the reader of a dump make no token. -/

namespace NestedQuery.SchemaDump

inductive Keyword where
  | create | alter | add | table | view | only | primary | key | foreign | references
  | not | null | unique | default | on | delete | update | cascade | restrict | constraint
  | index | ifWord | existsWord | check
  deriving DecidableEq, Repr

def Keyword.text : Keyword → String
  | create => "CREATE" | alter => "ALTER" | add => "ADD" | table => "TABLE" | view => "VIEW"
  | only => "ONLY" | primary => "PRIMARY" | key => "KEY" | foreign => "FOREIGN"
  | references => "REFERENCES" | not => "NOT" | null => "NULL" | unique => "UNIQUE"
  | default => "DEFAULT" | on => "ON" | delete => "DELETE" | update => "UPDATE"
  | cascade => "CASCADE" | restrict => "RESTRICT" | constraint => "CONSTRAINT"
  | index => "INDEX" | ifWord => "IF" | existsWord => "EXISTS" | check => "CHECK"

def Keyword.all : List Keyword :=
  [create, alter, add, table, view, only, primary, key, foreign, references, not, null, unique,
   default, on, delete, update, cascade, restrict, constraint, index, ifWord, existsWord, check]

/-- Equality up to the case of the letters A to Z. -/
def sameWord (left right : List Char) : Bool := left.map Char.toLower == right.map Char.toLower

def Keyword.ofWord? (word : List Char) : Option Keyword :=
  Keyword.all.find? fun keyword => sameWord keyword.text.toList word

/-- A token before the end of the text. The end is no token of its own: a reader is at it where the
list of tokens is used up, and messages then show `Eof` for the token that is missing. -/
inductive Token where
  | keyword (keyword : Keyword)
  | word (text : String)
  | quotedName (text : String)
  | text (text : String)
  | number (digits : String)
  | openParen
  | closeParen
  | comma
  | semicolon
  | dot
  deriving DecidableEq, Repr

namespace Token

def display : Token → String
  | keyword k => Naming.pascalCase k.text
  | word value => "Ident(" ++ Text.quoted value ++ ")"
  | quotedName value => "QuotedIdent(" ++ Text.quoted value ++ ")"
  | text value => "Str(" ++ Text.quoted value ++ ")"
  | number digits => "Num(" ++ Text.quoted digits ++ ")"
  | openParen => "LParen"
  | closeParen => "RParen"
  | comma => "Comma"
  | semicolon => "Semicolon"
  | dot => "Dot"

def isWord (token : Token) (expected : String) : Bool :=
  match token with
  | word value => sameWord value.toList expected.toList
  | _ => false

def isWordIn (token : Token) (expected : List String) : Bool := expected.any token.isWord

end Token

end NestedQuery.SchemaDump
