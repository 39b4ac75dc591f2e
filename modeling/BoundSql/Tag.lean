import BoundSql.Clause
import BoundSql.Error

/-! Tags and keywords read from text, each with the error for a text that is none. -/

namespace BoundSql

def Operator.read (text : String) : Except Error Operator :=
  Error.ifNone (.unknownOperator text) (Operator.ofText? text)

def Operation.read (text : String) : Except Error Operation :=
  Error.ifNone (.unknownOperation text) (Operation.ofText? text)

def JoinKind.read (text : String) : Except Error JoinKind :=
  Error.ifNone (.unsupportedJoin text) (JoinKind.ofText? text)

def Direction.read (text : String) : Except Error Direction :=
  Error.ifNone (.unknownDirection text) (Direction.ofText? text)

def ColumnType.read (tag : String) : Except Error ColumnType :=
  Error.ifNone (.unknownTypeTag tag) (ColumnType.ofTag? tag)

end BoundSql
