import Workbench.Source.Build

/-!
# The rules of programs

The grammar of Python programs.
-/

namespace Workbench.Source

def rule (name : String) (alternatives : List Alternative) : Rule :=
  { name, keeping := .none, alternatives }

def kept (name : String) (alternatives : List Alternative) : Rule :=
  { name, keeping := .memo, alternatives }

def growing (name : String) (alternatives : List Alternative) : Rule :=
  { name, keeping := .growing, alternatives }

instance : Coe String Alternative := ⟨plain⟩

def annotated : String → Alternative :=
  fixed .annAssign [(0, "target"), (2, "annotation"), (3, "value")]

def ifStmt : String → Alternative := fixed .ifStmt [(1, "test"), (3, "body"), (4, "orelse")]

def tryStmt : String → Alternative :=
  fixed .tryStmt [(2, "body"), (3, "handlers"), (4, "orelse"), (5, "finalbody")]

def pattern : List (Nat × String) → String → Alternative := fixed .pattern

def unary : String → Alternative := fixed .unaryOp [(1, "operand")]

def binary : String → Alternative := fixed .binOp [(0, "left"), (2, "right")]

def starred : String → Alternative := fixed .starred [(1, "value")]

def member : String → Alternative := named 2 .member [(0, "value")]

def subscript : String → Alternative := fixed .subscript [(0, "value"), (2, "slice")]

/-- The two ways in which the head of a compound statement goes without its block. -/
def refuseHead (i : Nat) (what text : String) : List Alternative :=
  [refuseLast "expected ':'" s!"{text} NEWLINE", refuseBlock i what s!"{text} ':' NEWLINE !INDENT"]

def simpleRules : List Rule :=
  [rule "file" [fixed .module [(0, "body")] "[statements] ENDMARKER"],
   rule "fstring" ["star_expressions"],
   rule "statements" ["statement+"],
   rule "statement" ["compound_stmt", "simple_stmts"],
   rule "simple_stmts" [pick 0 "simple_stmt !';' NEWLINE", pick 0 "';'.simple_stmt+ [';'] NEWLINE"],
   kept "simple_stmt"
     ["assignment", fixed .exprStmt [(0, "value")] "star_expressions", "&'return' return_stmt",
      "&( 'import' | 'from' ) import_stmt", "&'raise' raise_stmt", fixed .simple [] "'pass'",
      "&'del' del_stmt", "&'yield' yield_stmt", "&'assert' assert_stmt",
      fixed .simple [] "'break'", fixed .simple [] "'continue'", "&'global' global_stmt",
      "&'nonlocal' nonlocal_stmt"],
   rule "compound_stmt"
     ["&( 'def' | AT | ASYNC ) function_def", "&'if' if_stmt", "&( 'class' | AT ) class_def",
      "&( 'with' | ASYNC ) with_stmt", "&( 'for' | ASYNC ) for_stmt", "&'try' try_stmt",
      "&'while' while_stmt", "match_stmt"],
   rule "name" [named 0 .name [] "NAME"],
   rule "assignment"
     [annotated
        "name ':' expression [ '=' annotated_rhs ]",
      annotated
        ("( '(' single_target ')' | single_subscript_attribute_target ) "
          ++ "':' expression [ '=' annotated_rhs ]"),
      fixed .assign [(0, "targets"), (1, "value")]
        "( star_targets '=' )+ ( yield_expr | star_expressions ) !'='",
      fixed .augAssign [(0, "target"), (2, "value")]
        "single_target augassign ^ ( yield_expr | star_expressions )",
      "invalid_assignment"],
   rule "annotated_rhs" ["yield_expr", "star_expressions"],
   rule "augassign"
     [plain
       ("( '+=' | '-=' | '*=' | ATEQUAL | '/=' | '%=' | '&=' | '|=' | '^=' | '<<=' | '>>=' "
         ++ "| '**=' | '//=' )")],
   rule "return_stmt" [fixed .ret [(1, "value")] "'return' [star_expressions]"],
   rule "raise_stmt"
     [fixed .raise [(1, "exc"), (2, "cause")] "'raise' expression [ 'from' expression ]",
      fixed .raise [] "'raise'"],
   rule "global_stmt" [fixed .globals [] "'global' ','.NAME+"],
   rule "nonlocal_stmt" [fixed .globals [] "'nonlocal' ','.NAME+"],
   rule "del_stmt" [fixed .delete [(1, "targets")] "'del' del_targets &( ';' | NEWLINE )",
     "invalid_del_stmt"],
   rule "yield_stmt" [fixed .exprStmt [(0, "value")] "yield_expr"],
   rule "assert_stmt"
     [fixed .assert [(1, "test"), (2, "msg")] "'assert' expression [ ',' expression ]"],
   rule "import_stmt" ["import_name", "import_from"],
   rule "import_name" [fixed .import [(1, "names")] "'import' dotted_as_names"],
   rule "import_from"
     [importFrom (some 2) 4 "'from' ( '.' | '...' )* dotted_name 'import' import_from_targets",
      importFrom none 3 "'from' ( '.' | '...' )+ 'import' import_from_targets"],
   rule "import_from_targets"
     [pick 1 "'(' import_from_as_names [','] ')'", "import_from_as_names !','", aliasOf "'*'",
      "invalid_import_from_targets"],
   rule "import_from_as_names" ["','.import_from_as_name+"],
   rule "import_from_as_name" [aliasOf "NAME [ 'as' NAME ]"],
   rule "dotted_as_names" ["','.dotted_as_name+"],
   rule "dotted_as_name" [aliasOf "dotted_name [ 'as' NAME ]"],
   growing "dotted_name" ["dotted_name '.' NAME", "NAME"]]

def compoundRules : List Rule :=
  [kept "block" [pick 2 "NEWLINE INDENT statements DEDENT", "simple_stmts", "invalid_block"],
   rule "decorators" ["( AT named_expression NEWLINE )+"],
   rule "class_def" [decorated "decorators class_def_raw", "class_def_raw"],
   rule "class_def_raw"
     ["invalid_class_def_raw", classDef "'class' NAME [ '(' [arguments] ')' ] ':' block"],
   rule "function_def" [decorated "decorators function_def_raw", "function_def_raw"],
   rule "function_def_raw"
     ["invalid_def_raw",
      function false 1 3 7 5 "'def' NAME &&'(' [params] ')' [ '->' expression ] &&':' block",
      function true 2 4 8 6 "ASYNC 'def' NAME &&'(' [params] ')' [ '->' expression ] &&':' block"],
   rule "if_stmt"
     ["invalid_if_stmt",
      ifStmt "'if' named_expression ':' block elif_stmt",
      ifStmt "'if' named_expression ':' block [else_block]"],
   rule "elif_stmt"
     ["invalid_elif_stmt",
      ifStmt "'elif' named_expression ':' block elif_stmt",
      ifStmt "'elif' named_expression ':' block [else_block]"],
   rule "else_block" ["invalid_else_stmt", pick 2 "'else' &&':' block"],
   rule "while_stmt"
     ["invalid_while_stmt",
      fixed .whileLoop [(1, "test"), (3, "body"), (4, "orelse")]
        "'while' named_expression ':' block [else_block]"],
   rule "for_stmt"
     ["invalid_for_stmt",
      fixed (.forLoop false) [(1, "target"), (3, "iter"), (5, "body"), (6, "orelse")]
        "'for' star_targets 'in' ^ star_expressions ':' block [else_block]",
      fixed (.forLoop true) [(2, "target"), (4, "iter"), (6, "body"), (7, "orelse")]
        "ASYNC 'for' star_targets 'in' ^ star_expressions ':' block [else_block]",
      "invalid_for_target"],
   rule "with_stmt"
     ["invalid_with_stmt_indent",
      fixed (.withStmt false) [(2, "items"), (6, "body")]
        "'with' '(' ','.with_item+ ','? ')' ':' block",
      fixed (.withStmt false) [(1, "items"), (3, "body")] "'with' ','.with_item+ ':' block",
      fixed (.withStmt true) [(3, "items"), (7, "body")]
        "ASYNC 'with' '(' ','.with_item+ ','? ')' ':' block",
      fixed (.withStmt true) [(2, "items"), (4, "body")] "ASYNC 'with' ','.with_item+ ':' block",
      "invalid_with_stmt"],
   rule "with_item"
     [fixed .withItem [(0, "context_expr"), (2, "optional_vars")]
       "expression 'as' star_target &( ',' | ')' | ':' )",
      "invalid_with_item", fixed .withItem [(0, "context_expr")] "expression"],
   rule "try_stmt"
     ["invalid_try_stmt",
      fixed .tryStmt [(2, "body"), (3, "finalbody")] "'try' &&':' block finally_block",
      tryStmt
        "'try' &&':' block except_block+ [else_block] [finally_block]",
      tryStmt
        "'try' &&':' block except_star_block+ [else_block] [finally_block]"],
   rule "except_block"
     ["invalid_except_stmt_indent",
      fixed .handler [(1, "type"), (4, "body")] "'except' expression [ 'as' NAME ] ':' block",
      fixed .handler [(2, "body")] "'except' ':' block", "invalid_except_stmt"],
   rule "except_star_block"
     ["invalid_except_star_stmt_indent",
      fixed .handler [(2, "type"), (5, "body")] "'except' '*' expression [ 'as' NAME ] ':' block",
      "invalid_except_stmt"],
   rule "finally_block" ["invalid_finally_stmt", pick 2 "'finally' &&':' block"]]

def parameterRules (w close : String) : List Rule :=
  let no := s!"{w}param_no_default"
  let with_ := s!"{w}param_with_default"
  let maybe := s!"{w}param_maybe_default"
  [rule s!"{w}params" [plain s!"invalid_{w}parameters", plain s!"{w}parameters"],
   rule s!"{w}parameters"
     [arguments [0, 1, 2, 3] s!"{w}slash_no_default {no}* {with_}* [{w}star_etc]",
      arguments [0, 1, 2] s!"{w}slash_with_default {with_}* [{w}star_etc]",
      arguments [0, 1, 2] s!"{no}+ {with_}* [{w}star_etc]",
      arguments [0, 1] s!"{with_}+ [{w}star_etc]",
      arguments [0] s!"{w}star_etc"],
   rule s!"{w}slash_no_default"
     [inRole [0] "posonlyargs" s!"{no}+ '/' ','", inRole [0] "posonlyargs" s!"{no}+ '/' &{close}"],
   rule s!"{w}slash_with_default"
     [inRole [0, 1] "posonlyargs" s!"{no}* {with_}+ '/' ','",
      inRole [0, 1] "posonlyargs" s!"{no}* {with_}+ '/' &{close}"],
   rule s!"{w}star_etc"
     ([plain s!"invalid_{w}star_etc", afterStar [1] [2] [3] s!"'*' {no} {maybe}* [{w}kwds]"]
      ++ (if w == "" then
            [afterStar [1] [2]
              [3] "'*' param_no_default_star_annotation param_maybe_default* [kwds]"]
          else [])
      ++ [afterStar [] [2] [3] s!"'*' ',' {maybe}+ [{w}kwds]", plain s!"{w}kwds"]),
   rule s!"{w}kwds" [plain s!"invalid_{w}kwds", inRole [1] "kwarg" s!"'**' {no}"],
   rule no [pick 0 s!"{w}param ','", pick 0 s!"{w}param &{close}"],
   rule with_
     [param [(1, "default")] s!"{w}param default ','",
      param [(1, "default")] s!"{w}param default &{close}"],
   rule maybe
     [param [(1, "default")] s!"{w}param default? ','",
      param [(1, "default")] s!"{w}param default? &{close}"],
   rule s!"invalid_{w}parameters"
     ([refuseAt 2 "non-default argument follows default argument"
        s!"{no}* invalid_{w}parameters_helper {no}"]
      ++ (if w == "" then
            [refuseAt 1 "Function parameters cannot be parenthesized"
              "param_no_default* '(' param_no_default+ ','? ')'"]
          else
            [refuseAt 1 "Lambda expression parameters cannot be parenthesized"
              "lambda_param_no_default* '(' ','.lambda_param+ ','? ')'"])
      ++ [refuseAt 0 "at least one argument must precede /" "'/' ','",
          refuseAt 2 "/ may appear only once"
            s!"( {w}slash_no_default | {w}slash_with_default ) {maybe}* '/'",
          refuseAt 5 "/ must be ahead of *"
            (s!"[ {w}slash_no_default | {w}slash_with_default ] {maybe}* '*' "
              ++ s!"( ',' | {no} ) {maybe}* '/'"),
          refuseAt 2 "expected comma between / and *" s!"{maybe}+ '/' '*'"]),
   rule s!"invalid_{w}parameters_helper" [plain s!"{w}slash_with_default", plain s!"{with_}+"],
   rule s!"invalid_{w}star_etc"
     [(if w == "" then
       refuseAt 0 "named arguments must follow bare *" "'*' ( ')' | ',' ( ')' | '**' ) )"
       else refuseLast "named arguments must follow bare *" "'*' ( ':' | ',' ( ':' | '**' ) )"),
      refuseAt 2 "var-positional argument cannot have default value" s!"'*' {w}param '='",
      refuseAt 3 "* argument may appear only once"
        s!"'*' ( {no} | ',' ) {maybe}* '*' ( {no} | ',' )"],
   rule s!"invalid_{w}kwds"
     [refuseAt 2 "var-keyword argument cannot have default value" s!"'**' {w}param '='",
      refuseAt 3 "arguments cannot follow var-keyword argument" s!"'**' {w}param ',' {w}param",
      refuseAt 3 "arguments cannot follow var-keyword argument"
        s!"'**' {w}param ',' ( '*' | '**' | '/' )"]]

def paramRules : List Rule :=
  [rule "param_no_default_star_annotation"
    [pick 0 "param_star_annotation ','", pick 0 "param_star_annotation &')'"],
   rule "param" [param [(1, "annotation")] "NAME annotation?"],
   rule "param_star_annotation" [param [(1, "annotation")] "NAME star_annotation"],
   rule "annotation" [pick 1 "':' expression"],
   rule "star_annotation" [pick 1 "':' star_expression"],
   rule "default" [pick 1 "'=' expression", "invalid_default"],
   rule "lambda_param" [param [] "NAME"],
   rule "invalid_default" [refuseAt 0 "expected default value expression" "'=' &( ')' | ',' )"]]

def matchRules : List Rule :=
  [rule "match_stmt"
     [fixed .matchStmt [(1, "subject"), (5, "cases")]
       "~match subject_expr ':' NEWLINE INDENT case_block+ DEDENT",
      "invalid_match_stmt"],
   rule "subject_expr" [tupleOf [0, 2] "star_named_expression ',' star_named_expressions?",
     "named_expression"],
   rule "case_block"
     ["invalid_case_block",
      fixed .matchCase [(1, "pattern"), (2, "guard"), (4, "body")]
        "~case patterns guard? ':' block"],
   rule "guard" [pick 1 "'if' named_expression"],
   rule "patterns" [pattern [(0, "patterns")] "open_sequence_pattern", "pattern"],
   rule "pattern" ["as_pattern", "or_pattern"],
   rule "as_pattern"
     [pattern [(0, "pattern")] "or_pattern 'as' pattern_capture_target", "invalid_as_pattern"],
   rule "or_pattern" ["closed_pattern !'|'", pattern [(0, "patterns")] "'|'.closed_pattern+"],
   kept "closed_pattern"
     ["literal_pattern", "capture_pattern", "wildcard_pattern", "value_pattern",
      "group_pattern", "sequence_pattern", "mapping_pattern", "class_pattern"],
   rule "literal_pattern"
     [pattern [(0, "value")] "signed_number !( '+' | '-' )",
      pattern [(0, "value")] "complex_number", pattern [(0, "value")] "strings",
      pattern [] "( 'None' | 'True' | 'False' )"],
   rule "literal_expr"
     ["signed_number !( '+' | '-' )", "complex_number", "strings",
      fixed (.literal .none) [] "'None'", fixed (.literal .true) [] "'True'",
      fixed (.literal .false) [] "'False'"],
   rule "complex_number"
     [binary "signed_real_number ( '+' | '-' ) imaginary_number"],
   rule "signed_number" [number "NUMBER", fixed .unaryOp [] "'-' NUMBER"],
   rule "signed_real_number" ["real_number", unary "'-' real_number"],
   rule "real_number" [complexPart false "NUMBER"],
   rule "imaginary_number" [complexPart true "NUMBER"],
   rule "capture_pattern" [pattern [] "pattern_capture_target"],
   rule "pattern_capture_target" ["!~_ NAME !( '.' | '(' | '=' )"],
   rule "wildcard_pattern" [pattern [] "~_"],
   rule "value_pattern" [pattern [(0, "value")] "attr !( '.' | '(' | '=' )"],
   growing "attr" [member "name_or_attr '.' NAME"],
   rule "name_or_attr" ["attr", "name"],
   rule "group_pattern" [pick 1 "'(' pattern ')'"],
   rule "sequence_pattern"
     [pattern [(1, "patterns")] "'[' maybe_sequence_pattern? ']'",
      pattern [(1, "patterns")] "'(' open_sequence_pattern? ')'"],
   rule "open_sequence_pattern" ["maybe_star_pattern ',' maybe_sequence_pattern?"],
   rule "maybe_sequence_pattern" ["','.maybe_star_pattern+ ','?"],
   rule "maybe_star_pattern" ["star_pattern", "pattern"],
   kept "star_pattern" [pattern [] "'*' pattern_capture_target", pattern [] "'*' wildcard_pattern"],
   rule "mapping_pattern"
     [pattern [] "LBRACE RBRACE", pattern [] "LBRACE double_star_pattern ','? RBRACE",
      pattern [(1, "patterns")] "LBRACE items_pattern ',' double_star_pattern ','? RBRACE",
      pattern [(1, "patterns")] "LBRACE items_pattern ','? RBRACE"],
   rule "items_pattern" ["','.key_value_pattern+"],
   rule "key_value_pattern" [gather [0, 2] "( literal_expr | attr ) ':' pattern"],
   rule "double_star_pattern" ["'**' pattern_capture_target"],
   rule "class_pattern"
     [pattern [(0, "cls")] "name_or_attr '(' ')'",
      pattern [(0, "cls"), (2, "patterns")] "name_or_attr '(' positional_patterns ','? ')'",
      pattern [(0, "cls"), (2, "patterns")] "name_or_attr '(' keyword_patterns ','? ')'",
      pattern [(0, "cls"), (2, "patterns"), (4, "patterns")]
        "name_or_attr '(' positional_patterns ',' keyword_patterns ','? ')'",
      "invalid_class_pattern"],
   rule "positional_patterns" ["','.pattern+"],
   rule "keyword_patterns" ["','.keyword_pattern+"],
   rule "keyword_pattern" [pick 2 "NAME '=' pattern"]]

def leftGrouping (name operators next : String) : Rule :=
  growing name
    [binary s!"{name} ( {operators} ) {next}", plain next]

def expressionRules : List Rule :=
  [rule "expressions"
     [tupleOf [0, 1] "expression ( ',' expression )+ [',']", tupleOf [0] "expression ','",
      "expression"],
   kept "expression"
     ["invalid_expression", "invalid_legacy_expression",
      fixed .ifExp [(2, "test"), (0, "body"), (4, "orelse")]
        "disjunction 'if' disjunction 'else' expression",
      "disjunction", "lambdef"],
   { rule "expression_without_invalid"
       [fixed .ifExp [(2, "test"), (0, "body"), (4, "orelse")]
         "disjunction 'if' disjunction 'else' expression",
        "disjunction", "lambdef"] with tolerant := true },
   rule "yield_expr"
     [fixed .yield [(2, "value")] "'yield' 'from' expression",
      fixed .yield [(1, "value")] "'yield' [star_expressions]"],
   rule "star_expressions"
     [tupleOf [0, 1] "star_expression ( ',' star_expression )+ [',']",
      tupleOf [0] "star_expression ','", "star_expression"],
   kept "star_expression" [starred "'*' bitwise_or", "expression"],
   rule "star_named_expressions" [pick 0 "','.star_named_expression+ [',']"],
   rule "star_named_expression" [starred "'*' bitwise_or", "named_expression"],
   rule "assignment_expression"
     [fixed .namedExpr [(0, "target"), (2, "value")] "name ':=' ^ expression"],
   rule "named_expression"
     ["assignment_expression", "invalid_named_expression", "expression !':='"],
   kept "disjunction"
     [operands (fun _ => .boolOp) ("values", "values") "conjunction ( 'or' conjunction )+",
      "conjunction"],
   kept "conjunction"
     [operands (fun _ => .boolOp) ("values", "values") "inversion ( 'and' inversion )+",
      "inversion"],
   kept "inversion" [unary "'not' inversion", "comparison"],
   rule "comparison"
     [operands (fun vs => .compare (comparisonWords (nth vs 1))) ("left", "comparators")
        "bitwise_or compare_op_bitwise_or_pair+",
      "bitwise_or"],
   rule "compare_op_bitwise_or_pair"
     ["'==' bitwise_or", "'!=' bitwise_or", "'<=' bitwise_or", "'<' bitwise_or",
      "'>=' bitwise_or", "'>' bitwise_or", "( 'not' 'in' ) bitwise_or", "'in' bitwise_or",
      "( 'is' 'not' ) bitwise_or", "'is' bitwise_or"],
   leftGrouping "bitwise_or" "'|'" "bitwise_xor", leftGrouping "bitwise_xor" "'^'" "bitwise_and",
   leftGrouping "bitwise_and" "'&'" "shift_expr", leftGrouping "shift_expr" "'<<' | '>>'" "sum",
   leftGrouping "sum" "'+' | '-'" "term",
   leftGrouping "term" "'*' | '/' | '//' | '%' | AT" "factor",
   kept "factor" [unary "( '+' | '-' | '~' ) factor", "power"],
   rule "power" [binary "await_primary '**' factor", "await_primary"],
   kept "await_primary" [fixed .await [(1, "value")] "AWAIT primary", "primary"],
   growing "primary"
     [member "primary '.' NAME", callGenerator "primary genexp",
      call 0 2 "primary '(' [arguments] ')'",
      subscript "primary '[' slices ']'", "atom"],
   rule "slices" ["slice !','", tupleOf [0] "','.( slice | starred_expression )+ [',']"],
   rule "slice"
     [fixed .slice [(0, "lower"), (2, "upper"), (3, "step")]
        "[expression] ':' [expression] [ ':' [expression] ]",
      "named_expression"],
   rule "atom"
     ["name", fixed (.literal .true) [] "'True'", fixed (.literal .false) [] "'False'",
      fixed (.literal .none) [] "'None'", "&STRING strings", number "NUMBER",
      "&'(' ( tuple | group | genexp )", "&'[' ( list | listcomp )",
      "&LBRACE ( dict | set | dictcomp | setcomp )", fixed (.literal .ellipsis) [] "'...'"],
   rule "group" [pick 1 "'(' ( yield_expr | named_expression ) ')'", "invalid_group"],
   rule "lambdef" [lambdaOf "'lambda' [lambda_params] ':' expression"],
   kept "strings" [strings "STRING+"],
   rule "list" [fixed .list [(1, "elts")] "'[' [star_named_expressions] ']'"],
   rule "tuple"
     [fixed .tuple [(1, "elts")] "'(' [ star_named_expression ',' [star_named_expressions] ] ')'"],
   rule "set" [fixed .set [(1, "elts")] "LBRACE star_named_expressions RBRACE"],
   rule "dict"
     [dictionary "LBRACE [double_starred_kvpairs] RBRACE",
      "LBRACE invalid_double_starred_kvpairs RBRACE"],
   rule "double_starred_kvpairs" [pick 0 "','.double_starred_kvpair+ [',']"],
   rule "double_starred_kvpair"
     [alt "'**' bitwise_or" fun _ vs => .ok (some (.list [.none, nth vs 1])), "kvpair"],
   rule "kvpair" [gather [0, 2] "expression ':' expression"],
   rule "for_if_clauses" ["for_if_clause+"],
   rule "for_if_clause"
     [fixed .comprehension [(2, "target"), (4, "iter"), (5, "ifs")]
        "ASYNC 'for' star_targets 'in' ^ disjunction ( 'if' disjunction )*",
      fixed .comprehension [(1, "target"), (3, "iter"), (4, "ifs")]
        "'for' star_targets 'in' ^ disjunction ( 'if' disjunction )*",
      "invalid_for_target"],
   rule "listcomp"
     [fixed .listComp [(1, "elt"), (2, "generators")] "'[' named_expression for_if_clauses ']'",
      "invalid_comprehension"],
   rule "setcomp"
     [fixed .setComp [(1, "elt"), (2, "generators")]
       "LBRACE named_expression for_if_clauses RBRACE",
      "invalid_comprehension"],
   rule "genexp"
     [fixed .generator [(1, "elt"), (2, "generators")]
        "'(' ( assignment_expression | expression !':=' ) for_if_clauses ')'",
      "invalid_comprehension"],
   rule "dictcomp"
     [fixed .dictComp [(1, "key"), (2, "generators")] "LBRACE kvpair for_if_clauses RBRACE",
      "invalid_dict_comprehension"],
   kept "arguments" [pick 0 "args [','] &')'", "invalid_arguments"],
   rule "args"
     [argumentList [0, 1]
        ("','.( starred_expression | ( assignment_expression | expression !':=' ) !'=' )+ "
          ++ "[ ',' kwargs ]"),
      argumentList [0] "kwargs"],
   rule "kwargs"
     ["','.kwarg_or_starred+ ',' ','.kwarg_or_double_starred+", "','.kwarg_or_starred+",
      "','.kwarg_or_double_starred+"],
   rule "starred_expression"
     [starred "'*' expression", refuseLast "Invalid star expression" "'*'"],
   rule "kwarg_or_starred"
     ["invalid_kwarg", named 0 (fun n => .keyword (some n)) [(2, "value")] "NAME '=' expression",
      "starred_expression"],
   rule "kwarg_or_double_starred"
     ["invalid_kwarg", named 0 (fun n => .keyword (some n)) [(2, "value")] "NAME '=' expression",
      fixed (.keyword none) [(1, "value")] "'**' expression"]]

def targetRules : List Rule :=
  [rule "star_targets" ["star_target !','",
    tupleOf [0, 1] "star_target ( ',' star_target )* [',']"],
   rule "star_targets_list_seq" [pick 0 "','.star_target+ [',']"],
   rule "star_targets_tuple_seq"
     [gather [0, 1] "star_target ( ',' star_target )+ [',']", pick 0 "star_target ','"],
   kept "star_target" [starred "'*' ( !'*' star_target )", "target_with_star_atom"],
   kept "target_with_star_atom"
     [member "t_primary '.' NAME !t_lookahead",
      subscript "t_primary '[' slices ']' !t_lookahead", "star_atom"],
   rule "star_atom"
     ["name", pick 1 "'(' target_with_star_atom ')'",
      fixed .tuple [(1, "elts")] "'(' [star_targets_tuple_seq] ')'",
      fixed .list [(1, "elts")] "'[' [star_targets_list_seq] ']'"],
   rule "single_target" ["single_subscript_attribute_target", "name",
     pick 1 "'(' single_target ')'"],
   rule "single_subscript_attribute_target"
     [member "t_primary '.' NAME !t_lookahead", subscript "t_primary '[' slices ']' !t_lookahead"],
   growing "t_primary"
     [member "t_primary '.' NAME &t_lookahead",
      subscript "t_primary '[' slices ']' &t_lookahead",
      callGenerator "t_primary genexp &t_lookahead",
      call 0 2 "t_primary '(' [arguments] ')' &t_lookahead", "atom &t_lookahead"],
   rule "t_lookahead" ["'('", "'['", "'.'"],
   rule "del_targets" [pick 0 "','.del_target+ [',']"],
   kept "del_target"
     [member "t_primary '.' NAME !t_lookahead", subscript "t_primary '[' slices ']' !t_lookahead",
      "del_t_atom"],
   rule "del_t_atom"
     ["name", pick 1 "'(' del_target ')'", fixed .tuple [(1, "elts")] "'(' [del_targets] ')'",
      fixed .list [(1, "elts")] "'[' [del_targets] ']'"]]

def meantComparison : String := "invalid syntax. Maybe you meant '==' or ':=' instead of '='?"

def forgotParentheses : String := "did you forget parentheses around the comprehension target?"

def invalidExpressionRules : List Rule :=
  [rule "invalid_arguments"
     [refuseAt 1 "iterable argument unpacking follows keyword argument unpacking"
        ("( ','.( starred_expression | ( assignment_expression | expression !':=' ) !'=' )+ "
          ++ "',' kwargs | kwargs ) ',' ','.( starred_expression !'=' )+"),
      refuseAt 0 "Generator expression must be parenthesized"
        "expression for_if_clauses ',' [ args | expression for_if_clauses ]",
      refuseAt 0 meantComparison "NAME '=' expression for_if_clauses",
      refuseGenerator "args for_if_clauses",
      refuseAt 2 "Generator expression must be parenthesized" "args ',' expression for_if_clauses",
      refusePositional "args ',' args"],
   rule "invalid_kwarg"
     [alt "( 'True' | 'False' | 'None' ) '='" fun s vs =>
        refuse ((nth vs 0).line s.line) s!"cannot assign to {(nth vs 0).text}",
      refuseAt 0 meantComparison "NAME '=' expression for_if_clauses",
      refuseAt 0 "expression cannot contain assignment, perhaps you meant \"==\"?"
        "!( NAME '=' ) expression '='"],
   rule "invalid_legacy_expression" [refuseLegacy "NAME !'(' star_expressions"],
   rule "invalid_expression"
     [refuseComma "!( NAME STRING | SOFT ) disjunction expression_without_invalid",
      refuseAt 0 "expected 'else' after 'if' expression"
        "disjunction 'if' disjunction !( 'else' | ':' )"],
   kept "invalid_named_expression"
     [refuseNamed 0 "cannot use assignment expressions with " "" "expression ':=' expression",
      refuseAt 0 meantComparison "NAME '=' bitwise_or !( '=' | ':=' )",
      refuseNamed 0 "cannot assign to " " here. Maybe you meant '==' instead of '='?"
        ("!( list | tuple | genexp | 'True' | 'None' | 'False' ) bitwise_or '=' bitwise_or "
          ++ "!( '=' | ':=' )")],
   rule "invalid_comprehension"
     [refuseAt 1 "iterable unpacking cannot be used in comprehension"
        "( '[' | '(' | LBRACE ) starred_expression for_if_clauses",
      refuseAt 1 forgotParentheses
        "( '[' | LBRACE ) star_named_expression ',' star_named_expressions for_if_clauses",
      refuseAt 1 forgotParentheses "( '[' | LBRACE ) star_named_expression ',' for_if_clauses"],
   rule "invalid_dict_comprehension"
     [refuseAt 1 "dict unpacking cannot be used in dict comprehension"
        "LBRACE '**' bitwise_or for_if_clauses RBRACE"],
   rule "invalid_group"
     [refuseAt 1 "cannot use starred expression here" "'(' starred_expression ')'",
      refuseAt 1 "cannot use double starred expression here" "'(' '**' expression ')'"],
   rule "invalid_double_starred_kvpairs"
     ["','.double_starred_kvpair+ ',' invalid_kvpair",
      refuseAt 2 "cannot use a starred expression in a dictionary value"
        "expression ':' '*' bitwise_or",
      refuseAt 1 "expression expected after dictionary key and ':'"
        "expression ':' &( RBRACE | ',' )"],
   rule "invalid_kvpair"
     [refuseAt 0 "':' expected after dictionary key" "expression !':'",
      refuseAt 2 "cannot use a starred expression in a dictionary value"
        "expression ':' '*' bitwise_or",
      refuseAt 1 "expression expected after dictionary key and ':'"
        "expression ':' &( RBRACE | ',' )"]]

def bothExcepts : String := "cannot have both 'except' and 'except*' on the same 'try'"

def invalidStatementRules : List Rule :=
  [rule "invalid_assignment"
     [refuseNamed 0 "only single target (not " ") can be annotated"
       "invalid_ann_assign_target ':' expression",
      refuseAt 0 "only single target (not tuple) can be annotated"
        "star_named_expression ',' star_named_expressions* ':' expression",
      refuseAt 0 "illegal target for annotation" "expression ':' expression",
      refuseTarget 1 .assign "( star_targets '=' )* star_expressions '='",
      refuseAt 1 "assignment to yield expression not possible"
        "( star_targets '=' )* yield_expr '='",
      refuseNamed 0 "'" "' is an illegal expression for augmented assignment"
        "star_expressions augassign ( yield_expr | star_expressions )"],
   rule "invalid_ann_assign_target" ["list", "tuple", pick 1 "'(' invalid_ann_assign_target ')'"],
   rule "invalid_del_stmt" [refuseTarget 1 .delete "'del' star_expressions"],
   rule "invalid_block" [refuseLast "expected an indented block" "NEWLINE !INDENT"],
   rule "invalid_with_item"
     [refuseTarget 2 .assign "expression 'as' expression &( ',' | ')' | ':' )"],
   rule "invalid_for_target" [refuseTarget 2 .loop "ASYNC? 'for' star_expressions"],
   rule "invalid_import_from_targets"
     [refuseLast "trailing comma not allowed without surrounding parentheses"
       "import_from_as_names ',' NEWLINE"],
   rule "invalid_with_stmt"
     [refuseLast "expected ':'" "[ASYNC] 'with' ','.( expression [ 'as' star_target ] )+ NEWLINE",
      refuseLast "expected ':'"
        "[ASYNC] 'with' '(' ','.( expressions [ 'as' star_target ] )+ ','? ')' NEWLINE"],
   rule "invalid_with_stmt_indent"
     [refuseBlock 1 "'with' statement"
       "[ASYNC] 'with' ','.( expression [ 'as' star_target ] )+ ':' NEWLINE !INDENT",
      refuseBlock 1 "'with' statement"
        ("[ASYNC] 'with' '(' ','.( expressions [ 'as' star_target ] )+ ','? ')' "
          ++ "':' NEWLINE !INDENT")],
   rule "invalid_try_stmt"
     [refuseBlock 0 "'try' statement" "'try' ':' NEWLINE !INDENT",
      refuseLast "expected 'except' or 'finally' block" "'try' ':' block !( 'except' | 'finally' )",
      refuseAt 4 bothExcepts
        "'try' ':' block* except_block+ 'except' '*' expression [ 'as' NAME ] ':'",
      refuseAt 4 bothExcepts
        "'try' ':' block* except_star_block+ 'except' [ expression [ 'as' NAME ] ] ':'"],
   rule "invalid_except_stmt"
     [refuseAt 2 "multiple exception types must be parenthesized"
        "'except' '*'? expression ',' expressions [ 'as' NAME ] ':'",
      refuseLast "expected ':'" "'except' '*'? expression [ 'as' NAME ] NEWLINE",
      refuseLast "expected ':'" "'except' NEWLINE",
      refuseLast "expected one or more exception types" "'except' '*' ( NEWLINE | ':' )"],
   rule "invalid_finally_stmt"
     [refuseBlock 0 "'finally' statement" "'finally' ':' NEWLINE !INDENT"],
   rule "invalid_except_stmt_indent"
     [refuseBlock 0 "'except' statement" "'except' expression [ 'as' NAME ] ':' NEWLINE !INDENT",
      refuseBlock 0 "'except' statement" "'except' ':' NEWLINE !INDENT"],
   rule "invalid_except_star_stmt_indent"
     [refuseBlock 0 "'except*' statement"
       "'except' '*' expression [ 'as' NAME ] ':' NEWLINE !INDENT"],
   rule "invalid_match_stmt" (refuseHead 0 "'match' statement" "~match subject_expr"),
   rule "invalid_case_block" (refuseHead 0 "'case' statement" "~case patterns guard?"),
   rule "invalid_as_pattern"
     [refuseAt 2 "cannot use '_' as a target" "or_pattern 'as' ~_",
      refuseAt 2 "invalid pattern target" "or_pattern 'as' !NAME expression"],
   rule "invalid_class_pattern"
     [refuseAt 2 "positional patterns follow keyword patterns"
       "name_or_attr '(' invalid_class_argument_pattern"],
   rule "invalid_class_argument_pattern"
     [pick 3 "[ positional_patterns ',' ] keyword_patterns ',' positional_patterns"],
   rule "invalid_if_stmt" (refuseHead 0 "'if' statement" "'if' named_expression"),
   rule "invalid_elif_stmt" (refuseHead 0 "'elif' statement" "'elif' named_expression"),
   rule "invalid_else_stmt" [refuseBlock 0 "'else' statement" "'else' ':' NEWLINE !INDENT"],
   rule "invalid_while_stmt" (refuseHead 0 "'while' statement" "'while' named_expression"),
   rule "invalid_for_stmt"
     (refuseHead 1 "'for' statement" "[ASYNC] 'for' star_targets 'in' star_expressions"),
   rule "invalid_def_raw"
     [refuseBlock 1 "function definition"
        "[ASYNC] 'def' NAME '(' [params] ')' [ '->' expression ] ':' NEWLINE !INDENT"],
   rule "invalid_class_def_raw"
     (refuseHead 0 "class definition" "'class' NAME [ '(' [arguments] ')' ]")]

def rules : List Rule :=
  simpleRules ++ compoundRules ++ parameterRules "" "')'" ++ parameterRules "lambda_" "':'" ++
    paramRules ++ matchRules
    ++ expressionRules ++ targetRules ++ invalidExpressionRules ++ invalidStatementRules

end Workbench.Source
