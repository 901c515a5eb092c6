import MarketSnapshot.Text.Quoted

namespace MarketSnapshot.Field

inductive Cause where
  | missing
  | unexpected
  | frozen
  | notText
  | notEncodable (t : Text)
  | undecodable
  | notInteger
  | integerSyntax
  | integerSize
  | fractional
  | notFinite
  | aboveMaximum
  | belowMinimum
  | notNumber
  | numberSyntax
  | notFlag
  | flagSyntax
  | notSide
deriving DecidableEq

def integerMinimum : Int := -0x8000000000000000

def integerMaximum : Int := 0x7fffffffffffffff

namespace Cause

def code : Cause → String
  | .missing => "missing"
  | .unexpected => "extra_forbidden"
  | .frozen => "frozen_instance"
  | .notText => "string_type"
  | .notEncodable _ => "value_error"
  | .undecodable => "string_unicode"
  | .notInteger => "int_type"
  | .integerSyntax => "int_parsing"
  | .integerSize => "int_parsing_size"
  | .fractional => "int_from_float"
  | .notFinite => "finite_number"
  | .aboveMaximum => "less_than_equal"
  | .belowMinimum => "greater_than_equal"
  | .notNumber => "float_type"
  | .numberSyntax => "float_parsing"
  | .notFlag => "bool_type"
  | .flagSyntax => "bool_parsing"
  | .notSide => "enum"

def message : Cause → String
  | .missing => "Field required"
  | .unexpected => "Extra inputs are not permitted"
  | .frozen => "Instance is frozen"
  | .notText => "Input should be a valid string"
  | .notEncodable t => "Value error, not UTF-8 encodable: " ++ t.quoted
  | .undecodable => "Input should be a valid string, unable to parse raw data as a unicode string"
  | .notInteger => "Input should be a valid integer"
  | .integerSyntax => "Input should be a valid integer, unable to parse string as an integer"
  | .integerSize => "Unable to parse input string as an integer, exceeded maximum size"
  | .fractional => "Input should be a valid integer, got a number with a fractional part"
  | .notFinite => "Input should be a finite number"
  | .aboveMaximum => s!"Input should be less than or equal to {integerMaximum}"
  | .belowMinimum => s!"Input should be greater than or equal to {integerMinimum}"
  | .notNumber => "Input should be a valid number"
  | .numberSyntax => "Input should be a valid number, unable to parse string as a number"
  | .notFlag => "Input should be a valid boolean"
  | .flagSyntax => "Input should be a valid boolean, unable to interpret input"
  | .notSide => "Input should be 'bid_ask' or 'all_last'"

end Cause

end MarketSnapshot.Field
