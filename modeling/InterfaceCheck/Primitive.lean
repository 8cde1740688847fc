namespace InterfaceCheck

/-- The built-in types. They compare in the order in which they stand here. -/
inductive Primitive where
  | string
  | number
  | boolean
  | bigint
  | symbol
  | null
  | undefined
  | void
  | never
  | unknown
  | any
  deriving DecidableEq

namespace Primitive

def all : List Primitive :=
  [string, number, boolean, bigint, symbol, null, undefined, void, never, unknown, any]

theorem mem_all (p : Primitive) : p ∈ all := by cases p <;> decide

def keyword : Primitive → String
  | string => "string"
  | number => "number"
  | boolean => "boolean"
  | bigint => "bigint"
  | symbol => "symbol"
  | null => "null"
  | undefined => "undefined"
  | void => "void"
  | never => "never"
  | unknown => "unknown"
  | any => "any"

def name : Primitive → String
  | string => "String"
  | number => "Number"
  | boolean => "Boolean"
  | bigint => "BigInt"
  | symbol => "Symbol"
  | null => "Null"
  | undefined => "Undefined"
  | void => "Void"
  | never => "Never"
  | unknown => "Unknown"
  | any => "Any"

def ofKeyword? (s : String) : Option Primitive := all.find? (·.keyword == s)

theorem ofKeyword?_keyword (p : Primitive) : ofKeyword? p.keyword = some p := by cases p <;> decide

theorem name_injective {p q : Primitive} (h : p.name = q.name) : p = q := by
  cases p <;> cases q <;> first | rfl | exact absurd h (by decide)

def rank (p : Primitive) : Nat := all.idxOf p

instance : Ord Primitive := ⟨fun p q => compare p.rank q.rank⟩

end Primitive

end InterfaceCheck
