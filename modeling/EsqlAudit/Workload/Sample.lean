/-!
A host program in which every analysis finds something.
-/
namespace EsqlAudit.Workload

/-- The lines of a module that keeps employees in a database. -/
def sampleLines : List String :=
  ["/*",
   " * Module: sample.pc - Gestion des employés",
   " * Description: Module de démonstration pour l'analyseur Pro*C.",
   " *              Gère les opérations CRUD sur les employés.",
   " * Author: Bastien",
   " * Date: 2024-01-15",
   " * Version: 1.0",
   " */",
   "",
   "#include <stdio.h>",
   "#include <stdlib.h>",
   "#include <string.h>",
   "",
   "/* Variables hôtes Oracle */",
   "EXEC SQL BEGIN DECLARE SECTION;",
   "    char    username[32];",
   "    char    password[32];",
   "    int     emp_id;",
   "    char    emp_name[64];",
   "    float   emp_salary;",
   "    int     dept_id;",
   "    char    sql_error_msg[512];",
   "    short   indicator_var;",
   "EXEC SQL END DECLARE SECTION;",
   "",
   "EXEC SQL INCLUDE sqlca;",
   "",
   "/* Gestion des erreurs SQL */",
   "EXEC SQL WHENEVER SQLERROR DO sql_error_handler();",
   "EXEC SQL WHENEVER NOT FOUND DO not_found_handler();",
   "",
   "/*",
   " * Connexion à la base de données",
   " * Complexité cyclomatique: 3",
   " * Complexité cognitive: 2",
   " */",
   "int connect_db(const char *user, const char *pass) \x7b",
   "    strcpy(username, user);",
   "    strcpy(password, pass);",
   "    ",
   "    EXEC SQL CONNECT :username IDENTIFIED BY :password;",
   "    ",
   "    if (sqlca.sqlcode != 0) \x7b",
   "        printf(\"Erreur connexion: %s\\n\", sqlca.sqlerrm.sqlerrmc);",
   "        return -1;",
   "    \x7d",
   "    ",
   "    printf(\"Connexion réussie\\n\");",
   "    return 0;",
   "\x7d",
   "",
   "/*",
   " * Recherche un employé par ID",
   " * Complexité cyclomatique: 4",
   " * Complexité cognitive: 5",
   " */",
   "int find_employee(int id) \x7b",
   "    char *buffer;  /* TODO: utiliser un buffer statique */",
   "    ",
   "    /* FIXME: Cette fonction ne gère pas les erreurs correctement */",
   "    buffer = malloc(256);  /* Allocation sans vérification */",
   "    ",
   "    emp_id = id;",
   "    ",
   "    EXEC SQL SELECT emp_name, salary, dept_id",
   "             INTO :emp_name, :emp_salary:indicator_var, :dept_id",
   "             FROM employees",
   "             WHERE emp_id = :emp_id;",
   "    ",
   "    if (sqlca.sqlcode == 0) \x7b",
   "        if (indicator_var == -1) \x7b",
   "            printf(\"Employé %d: %s, salaire: NULL, dept: %d\\n\", ",
   "                   emp_id, emp_name, dept_id);",
   "        \x7d else \x7b",
   "            printf(\"Employé %d: %s, salaire: %.2f, dept: %d\\n\", ",
   "                   emp_id, emp_name, emp_salary, dept_id);",
   "        \x7d",
   "        /* XXX: buffer jamais libéré - fuite mémoire */",
   "        return 0;",
   "    \x7d else if (sqlca.sqlcode == 1403) \x7b",
   "        printf(\"Employé %d non trouvé\\n\", id);",
   "        return -1;",
   "    \x7d",
   "    ",
   "    return -2;",
   "\x7d",
   "",
   "/*",
   " * Met à jour le salaire avec validation",
   " * Complexité cyclomatique: 8",
   " * Complexité cognitive: 12",
   " */",
   "int update_salary(int id, float new_salary, int validate) \x7b",
   "    float old_salary;",
   "    float max_increase;",
   "    ",
   "    /* Récupérer l'ancien salaire */",
   "    emp_id = id;",
   "    EXEC SQL SELECT salary INTO :old_salary",
   "             FROM employees WHERE emp_id = :emp_id;",
   "    ",
   "    if (sqlca.sqlcode != 0) \x7b",
   "        return -1;",
   "    \x7d",
   "    ",
   "    /* Validation complexe */",
   "    if (validate) \x7b",
   "        max_increase = old_salary * 0.20;  /* Max 20% d'augmentation */",
   "        ",
   "        if (new_salary < 0) \x7b",
   "            printf(\"Erreur: salaire négatif\\n\");",
   "            return -2;",
   "        \x7d",
   "        ",
   "        if (new_salary > old_salary + max_increase) \x7b",
   "            if (new_salary > old_salary * 2) \x7b",
   "                printf(\"Erreur: augmentation excessive (>100%%)\\n\");",
   "                return -3;",
   "            \x7d else \x7b",
   "                printf(\"Warning: augmentation > 20%%\\n\");",
   "                /* Continue quand même */",
   "            \x7d",
   "        \x7d",
   "        ",
   "        /* Vérification supplémentaire selon le département */",
   "        if (dept_id == 10 || dept_id == 20) \x7b",
   "            if (new_salary > 100000 && old_salary <= 100000) \x7b",
   "                printf(\"Validation manager requise pour dept %d\\n\", dept_id);",
   "                return -4;",
   "            \x7d",
   "        \x7d",
   "    \x7d",
   "    ",
   "    /* Mise à jour */",
   "    emp_salary = new_salary;",
   "    EXEC SQL UPDATE employees ",
   "             SET salary = :emp_salary",
   "             WHERE emp_id = :emp_id;",
   "    ",
   "    if (sqlca.sqlcode == 0) \x7b",
   "        EXEC SQL COMMIT;",
   "        printf(\"Salaire mis à jour: %.2f -> %.2f\\n\", old_salary, new_salary);",
   "        return 0;",
   "    \x7d",
   "    ",
   "    EXEC SQL ROLLBACK;",
   "    return -5;",
   "\x7d",
   "",
   "/*",
   " * Liste tous les employés d'un département avec curseur",
   " * Complexité cyclomatique: 5",
   " * Complexité cognitive: 6",
   " */",
   "int list_department_employees(int department) \x7b",
   "    int count = 0;",
   "    ",
   "    EXEC SQL DECLARE emp_cursor CURSOR FOR",
   "        SELECT emp_id, emp_name, salary",
   "        FROM employees",
   "        WHERE dept_id = :department",
   "        ORDER BY emp_name;",
   "    ",
   "    EXEC SQL OPEN emp_cursor;",
   "    ",
   "    printf(\"\\n=== Employés du département %d ===\\n\", department);",
   "    ",
   "    while (1) \x7b",
   "        EXEC SQL FETCH emp_cursor ",
   "                 INTO :emp_id, :emp_name, :emp_salary:indicator_var;",
   "        ",
   "        if (sqlca.sqlcode == 1403) \x7b",
   "            break;  /* Plus de données */",
   "        \x7d",
   "        ",
   "        if (sqlca.sqlcode != 0) \x7b",
   "            printf(\"Erreur fetch: %d\\n\", sqlca.sqlcode);",
   "            break;",
   "        \x7d",
   "        ",
   "        count++;",
   "        if (indicator_var == -1) \x7b",
   "            printf(\"  %d. %s (salaire: N/A)\\n\", count, emp_name);",
   "        \x7d else \x7b",
   "            printf(\"  %d. %s (salaire: %.2f)\\n\", count, emp_name, emp_salary);",
   "        \x7d",
   "    \x7d",
   "    ",
   "    EXEC SQL CLOSE emp_cursor;",
   "    ",
   "    printf(\"Total: %d employés\\n\", count);",
   "    return count;",
   "\x7d",
   "",
   "/*",
   " * Fonction très complexe pour démonstration",
   " * Complexité cyclomatique: élevée",
   " * Complexité cognitive: très élevée",
   " */",
   "int complex_business_logic(int operation, int *data, int size) \x7b",
   "    int i, j;",
   "    int result = 0;",
   "    int temp;",
   "    ",
   "    switch (operation) \x7b",
   "        case 1:  /* Opération simple */",
   "            for (i = 0; i < size; i++) \x7b",
   "                result += data[i];",
   "            \x7d",
   "            break;",
   "            ",
   "        case 2:  /* Opération avec conditions */",
   "            for (i = 0; i < size; i++) \x7b",
   "                if (data[i] > 0) \x7b",
   "                    if (data[i] > 100) \x7b",
   "                        result += data[i] * 2;",
   "                    \x7d else if (data[i] > 50) \x7b",
   "                        result += data[i] + 10;",
   "                    \x7d else \x7b",
   "                        result += data[i];",
   "                    \x7d",
   "                \x7d else if (data[i] < 0) \x7b",
   "                    result -= data[i];",
   "                \x7d",
   "            \x7d",
   "            break;",
   "            ",
   "        case 3:  /* Opération avec boucles imbriquées */",
   "            for (i = 0; i < size; i++) \x7b",
   "                for (j = i + 1; j < size; j++) \x7b",
   "                    if (data[i] > data[j]) \x7b",
   "                        temp = data[i];",
   "                        data[i] = data[j];",
   "                        data[j] = temp;",
   "                    \x7d",
   "                \x7d",
   "            \x7d",
   "            result = data[0];",
   "            break;",
   "            ",
   "        case 4:  /* Opération avec conditions logiques complexes */",
   "            for (i = 0; i < size; i++) \x7b",
   "                if ((data[i] > 0 && data[i] < 100) || ",
   "                    (data[i] >= 100 && data[i] % 2 == 0)) \x7b",
   "                    result++;",
   "                \x7d",
   "                if (data[i] > 0 && data[i] < 50 && data[i] % 3 == 0) \x7b",
   "                    result += 2;",
   "                \x7d",
   "            \x7d",
   "            break;",
   "            ",
   "        default:",
   "            result = -1;",
   "            break;",
   "    \x7d",
   "    ",
   "    return result;",
   "\x7d",
   "",
   "/*",
   " * Gestionnaire d'erreurs SQL",
   " */",
   "void sql_error_handler(void) \x7b",
   "    EXEC SQL WHENEVER SQLERROR CONTINUE;",
   "    ",
   "    printf(\"Erreur SQL: %s\\n\", sqlca.sqlerrm.sqlerrmc);",
   "    ",
   "    EXEC SQL ROLLBACK;",
   "\x7d",
   "",
   "/*",
   " * HACK: Fonction de copie non sécurisée",
   " * TODO: Remplacer par une version avec vérification de taille",
   " */",
   "void unsafe_copy(char *dest, const char *src) \x7b",
   "    /* WARNING: strcpy est dangereux ! */",
   "    strcpy(dest, src);  /* Buffer overflow potentiel */",
   "\x7d",
   "",
   "/*",
   " * Fonction avec curseur imbriqué (anti-pattern)",
   " * NOTE: Cette fonction démontre un mauvais pattern",
   " */",
   "int nested_cursor_example(void) \x7b",
   "    int dept_count = 0;",
   "    ",
   "    /* Curseur externe pour les départements */",
   "    EXEC SQL DECLARE dept_cursor CURSOR FOR",
   "        SELECT dept_id FROM departments;",
   "    ",
   "    EXEC SQL OPEN dept_cursor;",
   "    ",
   "    while (1) \x7b",
   "        EXEC SQL FETCH dept_cursor INTO :dept_id;",
   "        if (sqlca.sqlcode != 0) break;",
   "        ",
   "        /* FIXME: Curseur imbriqué - très mauvais pour les performances */",
   "        EXEC SQL DECLARE inner_cursor CURSOR FOR",
   "            SELECT emp_name FROM employees WHERE dept_id = :dept_id;",
   "        ",
   "        EXEC SQL OPEN inner_cursor;",
   "        ",
   "        while (1) \x7b",
   "            EXEC SQL FETCH inner_cursor INTO :emp_name;",
   "            if (sqlca.sqlcode != 0) break;",
   "            printf(\"  Employee: %s\\n\", emp_name);",
   "        \x7d",
   "        ",
   "        EXEC SQL CLOSE inner_cursor;",
   "        dept_count++;",
   "    \x7d",
   "    ",
   "    EXEC SQL CLOSE dept_cursor;",
   "    return dept_count;",
   "\x7d",
   "",
   "/*",
   " * Gestionnaire NOT FOUND",
   " */",
   "void not_found_handler(void) \x7b",
   "    /* Pas d'action particulière */",
   "\x7d",
   "",
   "/*",
   " * Programme principal",
   " */",
   "int main(int argc, char *argv[]) \x7b",
   "    int rc;",
   "    int test_data[] = \x7b15, 82, 3, 47, 99, 21, 56\x7d;",
   "    ",
   "    if (argc < 3) \x7b",
   "        printf(\"Usage: %s username password\\n\", argv[0]);",
   "        return 1;",
   "    \x7d",
   "    ",
   "    rc = connect_db(argv[1], argv[2]);",
   "    if (rc != 0) \x7b",
   "        return 1;",
   "    \x7d",
   "    ",
   "    /* Tests */",
   "    find_employee(101);",
   "    list_department_employees(10);",
   "    ",
   "    printf(\"\\nTest logique métier: %d\\n\", ",
   "           complex_business_logic(2, test_data, 7));",
   "    ",
   "    /* Déconnexion */",
   "    EXEC SQL COMMIT WORK RELEASE;",
   "    ",
   "    return 0;",
   "\x7d"]

end EsqlAudit.Workload
