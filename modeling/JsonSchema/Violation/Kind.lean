/-! The kinds of violations, one for each constraint, with the wording of each. A field
in braces stands for the detail of that name. -/
namespace JsonSchema

inductive Kind where
  | type
  | unknownType
  | unionTypeNotValid
  | enum
  | enumNoArray
  | pattern
  | format
  | unknownFormat
  | minLength
  | maxLength
  | minimum
  | maximum
  | exclusiveMinimum
  | exclusiveMaximum
  | multipleOf
  | minProperties
  | maxProperties
  | dependency
  | dependencyNoProp
  | required
  | additionalProperties
  | minItems
  | maxItems
  | uniqueItems
  | additionalItems
  | itemNotValid
  | allOf
  | anyOf
  | oneOf
  | notOneOf
  | ref
  | unknownSchema
  | custom (name : String)
deriving DecidableEq

namespace Kind

def name : Kind → String
  | .type => "type"
  | .unknownType => "unknownType"
  | .unionTypeNotValid => "unionTypeNotValid"
  | .enum => "enum"
  | .enumNoArray => "enumNoArray"
  | .pattern => "pattern"
  | .format => "format"
  | .unknownFormat => "unknownFormat"
  | .minLength => "minLength"
  | .maxLength => "maxLength"
  | .minimum => "minimum"
  | .maximum => "maximum"
  | .exclusiveMinimum => "exclusiveMinimum"
  | .exclusiveMaximum => "exclusiveMaximum"
  | .multipleOf => "multipleOf"
  | .minProperties => "minProperties"
  | .maxProperties => "maxProperties"
  | .dependency => "dependency"
  | .dependencyNoProp => "dependencyNoProp"
  | .required => "required"
  | .additionalProperties => "additionalProperties"
  | .minItems => "minItems"
  | .maxItems => "maxItems"
  | .uniqueItems => "uniqueItems"
  | .additionalItems => "additionalItems"
  | .itemNotValid => "itemNotValid"
  | .allOf => "allOf"
  | .anyOf => "anyOf"
  | .oneOf => "oneOf"
  | .notOneOf => "notOneOf"
  | .ref => "$ref"
  | .unknownSchema => "unknownSchema"
  | .custom name => name

def standard : List Kind :=
  [.type, .unknownType, .unionTypeNotValid, .enum, .enumNoArray, .pattern, .format, .unknownFormat,
   .minLength, .maxLength, .minimum, .maximum, .exclusiveMinimum, .exclusiveMaximum, .multipleOf,
   .minProperties, .maxProperties, .dependency, .dependencyNoProp, .required,
   .additionalProperties, .minItems, .maxItems, .uniqueItems, .additionalItems, .itemNotValid,
   .allOf, .anyOf, .oneOf, .notOneOf, .ref, .unknownSchema]

def ofName (name : String) : Kind :=
  (standard.find? (·.name == name)).getD (.custom name)

/-- A kind without wording of its own is its own wording. -/
def template : Kind → String
  | .type => "Value is not of type \x7bexpected\x7d"
  | .unknownType => "Unknown type: \x7btype\x7d"
  | .unionTypeNotValid => "Value does not match any type in union: \x7btypes\x7d"
  | .enum => "Not a valid enumeration item: \x7bvalue\x7d"
  | .enumNoArray => "Enumeration is not an array: \x7benum\x7d"
  | .pattern => "Value does not match pattern: \x7bpattern\x7d"
  | .format => "Value does not match format: \x7bformat\x7d"
  | .unknownFormat => "Unknown format: \x7bformat\x7d"
  | .minLength => "String is shorter than minimum length: \x7bminLength\x7d"
  | .maxLength => "String is longer than maximum length: \x7bmaxLength\x7d"
  | .minimum => "Value is less than minimum: \x7bminimum\x7d"
  | .maximum => "Value is greater than maximum: \x7bmaximum\x7d"
  | .exclusiveMinimum => "Value is less than or equal to exclusive minimum: \x7bminimum\x7d"
  | .exclusiveMaximum => "Value is greater than or equal to exclusive maximum: \x7bmaximum\x7d"
  | .multipleOf => "Value is not a multiple of: \x7bmultipleOf\x7d"
  | .minProperties => "Number of properties is less than minimum: \x7bminProperties\x7d"
  | .maxProperties => "Number of properties is larger than maximum: \x7bmaxProperties\x7d"
  | .dependency => "Property \x7bproperty\x7d requires property: \x7bdependency\x7d"
  | .dependencyNoProp => "Invalid dependency declared for property: \x7bproperty\x7d"
  | .required => "Required property is missing: \x7bproperty\x7d"
  | .additionalProperties => "Additional property is not allowed: \x7bproperty\x7d"
  | .minItems => "Number of items is less than minimum: \x7bminItems\x7d"
  | .maxItems => "Number of items is larger than maximum: \x7bmaxItems\x7d"
  | .uniqueItems => "Array items are not unique"
  | .additionalItems => "Array index outside tuple length: \x7bindex\x7d"
  | .itemNotValid => "Additional item at index \x7bindex\x7d matches none of the schemas"
  | .allOf => "Value does not match all of the schemas"
  | .anyOf => "Value does not match any of the schemas"
  | .oneOf => "Value validates against more than one of the schemas"
  | .notOneOf => "Value does not validate against one of the schemas"
  | .ref => "Definition of schema reference not found: \x7bref\x7d"
  | .unknownSchema => "Schema is not an object: \x7bschema\x7d"
  | .custom name => name

end Kind

end JsonSchema
