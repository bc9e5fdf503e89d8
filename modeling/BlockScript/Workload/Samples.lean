/-!
Sample scripts, each of which prints that it went well. They go from single statements to packages,
cursors and the routines of the standard package.
-/

namespace BlockScript.Workload.Sample

def ok : String := "dbms_output.put_line('OK');\n"

def check (condition : String) : String := "if " ++ condition ++ " then\n" ++ ok ++ "end if;\n"

def run (statements : String) : String := "begin\n" ++ statements ++ "end;\n/\n"

def block (declarations statements : String) : String :=
  "declare\n" ++ declarations ++ run statements

def routine (head declarations statements : String) : String :=
  head ++ " is\n" ++ declarations ++ "begin\n" ++ statements ++ "end;\n"

def package (specification body : String) : String :=
  "create or replace package pkgtest is\n" ++ specification ++ "end;\n/\n" ++
    "create or replace package body pkgtest is\n" ++ body ++ "end;\n/\n"

def hello (statements : String) : String :=
  package "procedure sayhello;\n" (routine "procedure sayhello" "" statements)

/-- Has the database answer some query with some rows. -/
def mocked (sql rows : String) : String :=
  "mock := mockplcursor.mocksql('" ++ sql ++ "');\nmock.returns('" ++ rows ++ "');\n" ++
    "plcursor.setup('mock@database');\n"

def prepare (rows : String) : String :=
  routine "procedure prepare" "mock integer;\n" (mocked ".*" rows)

def texts : List String := [
  run ok,
  run ("if 4 <> 4 then\nnull;\nend if;\n" ++ check "1 = 1 and 40 >= 5"),
  block "nux atable.afield%type;\nnuy number := 2;\n" ("nux := 2;\n" ++ check "nux = nuy"),
  block "x number;\ny number;\nz number := null;\n"
    ("x := 10 + 2 - 3;\ny := 20 / 2;\nz := 2 * 3;\n" ++ check "x + y + z = 25"),
  block "nux number := 0;\nnuy number := null;\nabool boolean := null;\n"
    ("if nuy = nuy or abool or not abool then\nnux := 1;\nend if;\n" ++
      check "nuy is null and nux = 0"),
  run ("/***\nbad\n***/\n-- bad\n" ++ ok),
  block "x boolean := true;\ny boolean := false;\n"
    (check "x and (y or true) and not (x and false or y)"),
  block "nux number := 0;\n"
    (check "'' || '1' || 1 = '11' and trim('  a ') = 'a' and lpad('abc', 5, '123') = '12abc'"),
  package ("type tyObjects is table of varchar2(200)\nindex by binary_integer;\n" ++
      "tbObjects tyObjects;\n")
    (routine "procedure sayOk" "" ("tbObjects(1) := 2;\npkgtest.tbObjects(2) := 3;\n" ++
      check "tbObjects.exists(1) and 5 = tbObjects(1) + tbObjects(2)")) ++ run "pkgtest.sayOk();\n",
  block "nux number := -1;\n" ("if nux > 0 then\nnull;\nelsif nux < 0 then\n" ++ ok ++
    "else\nnull;\nend if;\n"),
  block "grade char(1);\n" ("grade := 'B';\ncase grade\nwhen 'A' then null;\nwhen 'B' then " ++ ok ++
    "else null;\nend case;\n"),
  block "grade char(1);\n" ("grade := 'F';\ncase\nwhen grade = 'A' then null;\n" ++
    "when grade = 'F' then " ++ ok ++ "end case;\n"),
  block "x number := 0;\n"
    ("<<a_loop>>\nloop\nx := x + 1;\nexit when x > 14;\nend loop a_loop;\n" ++ check "x = 15"),
  block "nux number := 0;\nnuy number := 0;\n"
    ("while nux < 10 loop\nnux := nux + 1;\ncontinue when mod(nux, 2) = 0;\n" ++
      "nuy := nuy + nux;\nend loop;\n" ++ check "nuy = 25"),
  block "nux number := 0;\n"
    ("for i in 1..3 loop\nnux := nux + i;\nend loop;\n" ++ check "nux = 6"),
  hello ("raise login_denied;\nexception\nwhen others then\n" ++ ok) ++ run "pkgtest.sayhello();\n",
  hello "raise login_denied;\nexception\nwhen others then\nraise;\n" ++
    run ("pkgtest.sayhello();\nexception\nwhen login_denied then\n" ++ ok),
  package "some_error exception;\n" (routine "procedure sayhello" ""
    ("raise some_error;\nexception\nwhen pkgtest.some_error then\n" ++ ok)) ++
    run "pkgtest.sayhello();\n",
  block (routine "procedure add(x in out number)" "" "x := x + 1;\n" ++ "y number := 1;\n")
    ("add(y);\n" ++ check "y = 2"),
  package "type My_Rec is record (a number, b number);\n" (routine "function Init return My_Rec"
    "Rec My_Rec;\n" "Rec.a := 0;\nreturn Rec;\n") ++
    block "r constant My_table%rowtype := pkgtest.Init();\n" (check "r.a = 0"),
  block ("subtype tyrcmessage is messages%rowtype;\n" ++
      "type tytbMessages is table of tyrcmessage index by binary_integer;\n" ++
      "tbmessages tytbMessages;\nnuidx number;\nnusum number := 0;\nsbsum varchar2(9);\n" ++
      routine "procedure addMessages(tb in out tytbMessages)" ""
        "tb(1).id := 1;\ntb(2).id := 2;\n")
    ("addMessages(tbmessages);\nnuidx := tbmessages.first;\nwhile nuidx is not null loop\n" ++
      "nusum := nusum + tbmessages(nuidx).id;\nnuidx := tbmessages.next(nuidx);\nend loop;\n" ++
      check "nusum = 3 and tbmessages.count = 2"),
  "create or replace " ++ routine "procedure proctest(nux in out number)" "" "nux := nux + 1;\n" ++
    "/\ncreate or replace " ++ routine "function functest return number" "" "return 0;\n" ++ "/\n" ++
    block "nux number := 0;\n" ("proctest(nux);\n" ++ check "functest() = 0 and nux = 1"),
  package "procedure nothing;\n" (routine "procedure sayhello" "" (ok ++ "return;\n") ++
    routine "procedure nothing(nux in number)" "nuz number := 1;\n" "null;\n") ++
    run "pkgtest.sayhello;\npkgtest.nothing(1);\n",
  package "nuX number := 1;\nnuY number := 1;\n"
    (routine "procedure sayOk" "nuY number := 2;\n" (check "nux + nuy = 3")) ++
    run "pkgtest.sayOk();\n",
  package ("procedure main;\npragma restrict_references (main,wnds,wnps,rnds,trust);\n")
    (routine "function one return varchar2" "" "return 1;\n" ++
      routine "procedure main" "" (check "one + pkgtest.one() = 2")) ++ run "pkgtest.main;\n",
  package "nux number := 500;\n" (routine "procedure main(nux number)" ""
      ("pkgtest.nux := nux;\n" ++ check "4 = pkgtest.nux + nux")) ++ run "pkgtest.main(2);\n",
  package "nutotal number := 0;\n" (routine "procedure main" ("nux number := 2;\n" ++
      routine "procedure inner" "nux number := 3;\n" "nutotal := nutotal + nux;\n")
    "inner;\nnutotal := nutotal + nux;\n") ++
    block "nux number := 4;\n" ("pkgtest.main;\n" ++ check "pkgtest.nutotal + nux = 9"),
  package "cursor cuData is\nselect * from dual;\n" (prepare "[[\"X\"]]" ++
    routine "procedure main" "sbData varchar2(9);\n"
      ("open pkgtest.cuData;\nfetch cuData into sbData;\nclose cuData;\n" ++
        check "sbData = 'X'")) ++ run "pkgtest.prepare();\npkgtest.main();\n",
  package "cursor cuData is\nselect * from dual;\n" (prepare "[[\"X\"]]" ++
    routine "procedure main" "sbData varchar2(9);\n" ("open pkgtest.cuData;\n" ++
      "fetch cuData into sbData;\n" ++ check "cuData%isopen and cuData%found" ++
      "close cuData;\n")) ++ run "pkgtest.prepare();\npkgtest.main();\n",
  package "mock integer;\n" (prepare "[[2]]" ++
      routine "procedure main(pUsername in varchar2)" ("cursor cuData is\n" ++
          "select count(1) from users where username = pUsername;\nnuData number;\n")
        ("open cuData;\nfetch cuData into nuData;\nclose cuData;\n" ++ check "nuData = 2")) ++
    run "pkgtest.prepare();\npkgtest.main('pedro');\n",
  package "cursor cuData is\nselect 'X', 'Y', 'Z' from dual;\n" (prepare "[[\"X\", \"Y\", \"Z\"]]" ++
    routine "procedure main(x out varchar2, y out varchar2, z out varchar2)" ""
      "open pkgtest.cuData;\nfetch cuData into x, y, z;\nclose cuData;\n") ++
    block "x varchar2(10);\ny varchar2(10);\nz varchar2(10);\n" ("pkgtest.prepare();\n" ++
      "pkgtest.main(x, y, z);\n" ++ check "x = 'X' and y = 'Y' and z = 'Z'"),
  package "procedure main;\n" (prepare "[[12]]" ++ routine "procedure main"
    ("nuid number := 50;\ncursor cuMessage(inuCode in ge_message.message_id%type) is\n" ++
      "select message_id from ge_message where message_id = inuCode;\n")
    ("open cuMessage(nuid);\nfetch cuMessage into nuid;\nclose cuMessage;\n" ++
      check "nuid = 12")) ++ run "pkgtest.prepare();\npkgtest.main();\n",
  package "mock integer;\n" (routine "procedure prepare" "" (mocked ".*" "[]") ++
    routine "procedure main(nuy in number)" "nux number := 0;\n"
      "insert into salaries (id, salary) values (nux, nuy);\n" ++ routine "procedure validate" ""
      "mock.expect_haveBeenOpenWith('\x7b''\"NUX\"'':0, ''\"NUY\"'':1\x7d');\n") ++
    run ("pkgtest.prepare();\npkgtest.main(1);\npkgtest.validate();\n" ++ ok),
  package "mock integer;\n" (routine "procedure prepare" ""
      (mocked "^update salaries.*set salary=:\"nuy\"$" "[]" ++ "mock.Rowcount(5);\n") ++
    routine "procedure main(nuy in number)" ""
      ("update salaries set salary=nuy;\n" ++ check "sql%rowcount = 5")) ++
    run "pkgtest.prepare();\npkgtest.main(2);\n",
  block "mock integer;\nrc users%rowtype;\n" (mocked "^insert into users values" "[]" ++
    "rc.id := 10;\ninsert into users values (rc.id);\n" ++
    "mock.expect_haveBeenOpenWith('\x7b''\"RC.ID\"'':10\x7d');\n" ++ ok),
  block "mock integer;\nnuVal number;\n" (mocked "dual" "[[100]]" ++
    "execute immediate 'select 100 from dual' into nuVal;\n" ++ check "nuVal = 100"),
  run "plcursor.setup('mock@database');\ncommit;\nmockplcursor.expect_commit();\n" ++
    run ("rollback;\nmockplcursor.expect_rollback();\n" ++ ok),
  run "plcursor.setup('mock@database');\n" ++
    block (routine "procedure test" "pragma autonomous_transaction;\n"
      ("mockplcursor.expect_in_autonomous_transaction();\ncommit;\n" ++
        "mockplcursor.expect_in_normal_transaction();\n" ++ ok)) "test();\n",
  block "sb varchar2(100) := 'hello world';\n" (check "instr(sb, 'orl') = 8"),
  block "sb varchar2(100) := 'hello world';\n"
    (check "replace(sb, 'orl', 'ORL') = 'hello wORLd' and replace(sb, null) = sb"),
  block "code number := -20123;\nmessage varchar2(100) := 'this is an error message';\n"
    ("raise_application_error(code, message);\nexception\nwhen others then\n" ++
      check "sqlcode = code and sqlerrm = 'ORA' || code || ': ' || message"),
  block "sb varchar2(100) := substr('hello world', 0);\n"
    (check "substr(sb, 1, 5) = 'hello' and substr(sb, -1) = 'd' and substr(sb, null) is null"),
  block "nux number;\nnuy number := 1;\n" (check "nvl(nux, 2) = 2 and nvl(nuy, 2) = 1"),
  block "sb1 varchar2(10) := 'abc';\nsb2 varchar2(10);\n"
    (check "length(sb1) = 3 and length(sb2) is null"),
  run (check "1 = '1' and to_char(2) = '2' and to_number('2.01') = 2.01"),
  run (check "upper('AbC') = 'ABC' and lower('AbC') = 'abc' and lower(null) is null"),
  block "sb2 varchar2(100);\nmock integer;\n" (mocked "SYS_CONTEXT" "[[\"NN\"]]" ++
    "sb2 := sys_context('USERENV', 'OS_USER');\n" ++ check "sb2 = 'NN'"),
  run (check "chr('67') = 'C' and chr(67) = 'C' and chr(null) is null")]

end BlockScript.Workload.Sample
