import EsqlAudit.Workload.Sample

/-!
Sources of any size on which the analyses are tried out. A source repeats a part as often as asked, with the
number of the repetition in its names.
-/
namespace EsqlAudit.Workload

/-- Lines, each with its end. -/
def joined (lines : List String) : List Char :=
  lines.flatMap fun l => l.toList ++ ['\n']

/-- A part for each number below a bound. -/
def repeated (n : Nat) (part : Nat → List String) : List Char :=
  (List.range n).flatMap fun i => joined (part i)

/-- A function of plain C that branches in all ways. -/
def worker (i : Nat) : List String :=
  ["",
   s!"int worker_{i}(int a, int *b, char *name) \x7b",
   "    int x = a + 1;",
   "    int y = a - 1;",
   "    int *p;",
   "    char buf[64];",
   "    char c = 'q';",
   "    mytype z;",
   "    p = malloc(sizeof(int) * 10);",
   "    if (p == NULL) \x7b return -1; \x7d",
   "    z = (mytype) p;",
   "    strcpy(buf, name);",
   "    for (x = 0; x < a; x++) \x7b",
   "        if (x > 5 && x < 20 || x == 99) \x7b",
   "            while (y > 0) \x7b",
   "                y--;",
   "                if (y == 3) break outer;",
   "                if (y % 2 == 0) \x7b continue; \x7d",
   "                buf[y] = name[y];",
   "                *p = obj.field + obj->ptr;",
   "            \x7d",
   "        \x7d else if (x == 0) \x7b",
   "            goto cleanup;",
   "        \x7d else \x7b",
   "            y = (x > 0) ? x : -x;",
   "        \x7d",
   "        if (a) if (b) y++;",
   "        switch (x) \x7b",
   "            case 1: y += 1; break;",
   "            case 2: y += 2; break;",
   "            default: y = 0; break;",
   "        \x7d",
   "        do \x7b y = y + sizeof(int); \x7d while (y < 100);",
   "        printf(\"val %d %s\\n\", x, \"lit\");",
   "    \x7d",
   "cleanup:",
   "    free(p);",
   "    return !y;",
   "\x7d"]

/-- Plain C with some functions. -/
def functions (n : Nat) : List Char :=
  joined ["#include <stdio.h>"] ++ repeated n worker

/-- A module with embedded statements, notes, a cursor that is never closed and memory that is handled
badly. -/
def hostModule (i : Nat) : List String :=
  ["",
   s!"/* Module: mod_{i}.pc",
   s!" * Description: Generated module number {i} for benchmarking the analyzer.",
   " * Author: bench",
   " * Date: 2024-01-01",
   s!" * Version: 1.{i}",
   " */",
   s!"// TODO: refactor worker_{i}",
   "#include <stdio.h>",
   "#include <stdlib.h>",
   "EXEC SQL INCLUDE sqlca;",
   "EXEC SQL BEGIN DECLARE SECTION;",
   s!"    int host_{i};",
   s!"    char name_{i}[32];",
   "EXEC SQL END DECLARE SECTION;",
   "EXEC SQL END DECLARE SECTION;",
   "EXEC ORACLE OPTION (HOLD_CURSOR=YES);",
   "EXEC SQL WHENEVER SQLERROR DO handle_err();",
   s!"EXEC SQL ALLOCATE :cur_{i};",
   "",
   s!"int fetch_{i}(int dept) \x7b",
   "    char *buf;",
   "    int *arr;",
   "    int *ok;",
   "    /* FIXME: null check missing */",
   "    buf = malloc(128);",
   "    arr = (int *) malloc(sizeof(arr));",
   "    ok = malloc(8);",
   "    if (ok == NULL) return -1;",
   "    free(ok);",
   "    ok = NULL;",
   "    free(arr);",
   "    other = NULL;",
   "    gets(buf);",
   "    sprintf(buf, \"%d\", dept);",
   "    strcat(buf, \"x\");",
   "    fscanf(stdin, \"%s\", buf);",
   "    // HACK: quick and dirty",
   s!"    EXEC SQL PREPARE stmt_{i} FROM :buf;",
   s!"    EXEC SQL DECLARE dyn_{i} CURSOR FOR stmt_{i};",
   s!"    EXEC SQL DECLARE cur_{i} CURSOR FOR SELECT id, name FROM emp WHERE dept = :dept;",
   s!"    EXEC SQL OPEN cur_{i};",
   s!"    EXEC SQL OPEN cur_{i};",
   "    while (1) \x7b",
   s!"        EXEC SQL FETCH cur_{i} INTO :host_{i}, :name_{i};",
   "        EXEC SQL SELECT 1 FROM dual;",
   "        if (sqlca.sqlcode != 0) break;",
   s!"        EXEC SQL OPEN dyn_{i};",
   s!"        EXEC SQL FETCH dyn_{i} INTO :host_{i};",
   "        /* XXX: no sqlcode check here */",
   s!"        EXEC SQL CLOSE dyn_{i};",
   "    \x7d",
   "    // NOTE: buf never freed",
   "    free(buf);",
   s!"    return host_{i};",
   "\x7d",
   "",
   s!"VOID legacy_{i}(INT a, STR b)",
   "begin",
   "    if (a > 0) begin",
   "        a = a + 1; // end in comment",
   "    end /* begin comment */",
   "end",
   "",
   s!"char *ptr_func_{i}(void) \x7b",
   "    return \"ok\";",
   "\x7d"]

/-- Some modules in one source, with the sample program after them. -/
def hostProgram (n : Nat) : List Char :=
  repeated n hostModule ++ joined sampleLines

/-- Allocations, only some of which are checked and freed, and calls of dangerous functions. -/
def allocations (i : Nat) : List String :=
  [s!"int *p{i};char *b{i};int *q{i};",
   s!"p{i}=malloc(8);",
   s!"if(p{i}==NULL)return -1;",
   s!"b{i}=malloc(sizeof(b{i}));",
   s!"q{i}=calloc(1,4);",
   s!"gets(b{i});strcpy(b{i},x);sprintf(b{i},\"%d\",1);",
   s!"strcat(b{i},y);fscanf(f,\"%s\",b{i});",
   s!"free(p{i});p{i}=NULL;",
   s!"free(b{i});x{i}=NULL;",
   s!"free(q{i});",
   "return 0;"]

/-- Statements that handle memory. -/
def memory (n : Nat) : List Char :=
  repeated n allocations

/-- A cursor that is opened twice and never closed, with another one inside its loop. -/
def nestedCursors (i : Nat) : List String :=
  [s!"EXEC SQL DECLARE c{i} CURSOR FOR SELECT a FROM t;",
   s!"EXEC SQL DECLARE d{i} CURSOR FOR SELECT b FROM u;",
   s!"EXEC SQL OPEN c{i};",
   s!"EXEC SQL OPEN c{i};",
   "while(1)\x7b",
   s!"EXEC SQL FETCH c{i} INTO :a;",
   "EXEC SQL SELECT 1 FROM dual;",
   "if(sqlca.sqlcode!=0)break;",
   s!"EXEC SQL OPEN d{i};",
   s!"EXEC SQL FETCH d{i} INTO :b;",
   s!"EXEC SQL CLOSE d{i};",
   "\x7d"]

/-- Statements that use cursors. -/
def cursors (n : Nat) : List Char :=
  repeated n nestedCursors

/-- The tags of notes. -/
def tags : List String :=
  ["TODO", "FIXME", "HACK", "XXX", "BUG", "NOTE", "WARNING", "WARN", "OPTIMIZE", "REVIEW", "DEPRECATED"]

/-- Two notes with one tag, which goes around. -/
def notes (i : Nat) : List String :=
  let tag := tags.getD (i % tags.length) ""
  [s!"// {tag}: item {i}",
   s!"/* {tag} block {i} */"]

/-- A module with many notes. -/
def comments (n : Nat) : List Char :=
  joined
    ["/*",
     " * Module: dense.pc",
     " * Description: comment heavy fixture",
     " * Author: bench",
     " * Date: 2024-01-01",
     " * Version: 9.9",
     " */",
     "#include <stdio.h>",
     "EXEC SQL INCLUDE sqlca;"] ++
  repeated n notes ++ "int g = 0;".toList

end EsqlAudit.Workload
